import GridGooseSV.Sv.Setup
import Mathlib.Data.List.Induction

/-!
# Sample counters

The counter of an ASDU is increased modulo a limit, which is 65535 unless it is set. Until the frame
is prepared the ASDU alone has the counter; from then on every call patches its two octets in the
frame as well.
-/

namespace GridGooseSV.SVPublisher

open BerEncoder

/-- A call on the counter of an ASDU. -/
inductive CounterCall
  | setSmpCnt (value : UInt16)
  | setSmpCntWrap (value : UInt16)
  | increaseSmpCnt
  deriving DecidableEq, Repr

/-- A call on the counter of one of so many ASDUs, or the preparation of the frame. -/
inductive CounterAction (asdus : Nat)
  | call (index : Fin asdus) (own : CounterCall)
  | setupComplete
  deriving DecidableEq, Repr

def CounterCall.operation : CounterCall → ASDU.Operation
  | .setSmpCnt value => .setSmpCnt value
  | .setSmpCntWrap value => .setSmpCntWrap value
  | .increaseSmpCnt => .increaseSmpCnt

def CounterAction.operation {asdus : Nat} : CounterAction asdus → Operation
  | .call index own => .onASDU index.val own.operation
  | .setupComplete => .setupComplete

/-- The call is about the counter. -/
def ASDU.Operation.Counts : ASDU.Operation → Prop
  | .setSmpCnt _ => True
  | .setSmpCntWrap _ => True
  | .increaseSmpCnt => True
  | _ => False

/-- A publisher that was created and configured, and no counter of it was used. -/
inductive Uncounted : SVPublisher → Prop
  | createEx (parameters : CommParameters) (srcAddr : Octets 6) (useVlanTag : Bool)
      (found : Memory) : Uncounted (createEx parameters srcAddr useVlanTag found)
  | addASDU {self : SVPublisher} (uncounted : Uncounted self) (svID : CString)
      (datset : Option CString) (confRev : UInt32) : Uncounted (self.addASDU svID datset confRev)
  | configure {self after : SVPublisher} (uncounted : Uncounted self) {index : Nat}
      {operation : ASDU.Operation} (other : ¬ operation.Counts)
      (performed : self.perform (.onASDU index operation) = some after) : Uncounted after

section Definitions

variable {asdus : Nat}

/-- The publisher after actions. -/
def countAll (self : SVPublisher) (actions : List (CounterAction asdus)) : Option SVPublisher :=
  self.performAll (actions.map CounterAction.operation)

/-- An ASDU after actions. -/
def asduAfter (self : SVPublisher) (actions : List (CounterAction asdus)) (index : Fin asdus) :
    Option ASDU :=
  (self.countAll actions).bind fun after => after.asduList[index.val]?

/-- No limit is set for the counter of an ASDU. -/
def Unlimited (index : Fin asdus) (actions : List (CounterAction asdus)) : Prop :=
  ∀ value, .call index (.setSmpCntWrap value) ∉ actions

end Definitions

/-- The counter stands in the buffer where it was recorded, behind its tag and its length. -/
def ASDU.Shown (self : ASDU) (buffer : Memory) : Prop :=
  ∃ position, self.smpCntBuf = some (position + 2) ∧
    buffer.Holds position ([0x82, 2] ++ [highOctet self.smpCnt, lowOctet self.smpCnt])

/-- What is claimed of the counters in a run. -/
structure CountsProperly (publisher : SVPublisher)
    (actions : List (CounterAction publisher.asduList.length)) : Prop where
  /-- no division by zero occurs -/
  defined : ∃ after, publisher.countAll actions = some after
  limited : ∀ before rest index asdu next,
    actions = before ++ .call index .increaseSmpCnt :: rest →
    publisher.asduAfter before index = some asdu →
    publisher.asduAfter (before ++ [.call index .increaseSmpCnt]) index = some next →
    1 ≤ asdu.smpCntLimit.toNat → next.smpCnt.toNat < asdu.smpCntLimit.toNat ∧
      next.smpCnt.toNat = (asdu.smpCnt.toNat + 1) % asdu.smpCntLimit.toNat
  /-- increased again and again, a counter without a limit has all values of 16 bits -/
  unlimited : ∀ before times rest index asdu next,
    actions = before ++ List.replicate times (.call index .increaseSmpCnt) ++ rest →
    Unlimited index before → publisher.asduAfter before index = some asdu →
    publisher.asduAfter (before ++ List.replicate times (.call index .increaseSmpCnt)) index =
      some next →
    next.smpCnt.toNat = (asdu.smpCnt.toNat + times) % 2 ^ 16
  shown : ∀ before rest after, actions = before ++ rest → .setupComplete ∈ before →
    publisher.countAll before = some after → ∀ asdu ∈ after.asduList, asdu.Shown after.buffer

/-- No counter is increased whose limit is 0, nor one without a limit that is 65534 or 65535. -/
def StaysBelow (self : SVPublisher) (actions : List (CounterAction self.asduList.length)) : Prop :=
  ∀ before rest index asdu, actions = before ++ .call index .increaseSmpCnt :: rest →
    self.asduAfter before index = some asdu →
    asdu.smpCntLimit ≠ 0 ∧ (Unlimited index before → asdu.smpCnt.toNat < 65534)

/-! ## What a call does -/

/-- What a call leaves of an ASDU. -/
def CounterCall.after (asdu : ASDU) : CounterCall → Option ASDU
  | .setSmpCnt value => some { asdu with smpCnt := value }
  | .setSmpCntWrap value => some { asdu with smpCntLimit := value }
  | .increaseSmpCnt =>
    if asdu.smpCntLimit = 0 then none
    else some { asdu with
      smpCnt := UInt16.ofNat ((asdu.smpCnt.toNat + 1) % asdu.smpCntLimit.toNat) }

/-- A call leaves all but the counter and its limit, and the limit if it does not set it. -/
theorem CounterCall.after_eq {asdu next : ASDU} {own : CounterCall}
    (does : own.after asdu = some next) :
    next = { asdu with smpCnt := next.smpCnt, smpCntLimit := next.smpCntLimit } ∧
      ((∀ value, own ≠ .setSmpCntWrap value) → next.smpCntLimit = asdu.smpCntLimit) := by
  cases own with
  | setSmpCnt value =>
      rw [← Option.some.inj does]
      exact ⟨rfl, fun _ => rfl⟩
  | setSmpCntWrap value =>
      rw [← Option.some.inj does]
      exact ⟨rfl, fun quiet => absurd rfl (quiet value)⟩
  | increaseSmpCnt =>
      rw [after, Option.ite_none_left_eq_some] at does
      rw [← Option.some.inj does.2]
      exact ⟨rfl, fun _ => rfl⟩

theorem fst_perform_call (asdu : ASDU) (memory : Memory) (own : CounterCall) :
    (asdu.perform memory own.operation).map Prod.fst = own.after asdu := by
  cases own with
  | setSmpCnt value => rfl
  | setSmpCntWrap value => rfl
  | increaseSmpCnt =>
      change (asdu.increaseSmpCnt memory).map Prod.fst = _
      rw [ASDU.increaseSmpCnt, CounterCall.after]
      by_cases zero : asdu.smpCntLimit = 0
      · rw [if_pos zero, if_pos zero]
        rfl
      · rw [if_neg zero, if_neg zero]
        rfl

/-- A call that is not about the counter keeps it. -/
theorem counter_perform {asdu : ASDU} {memory : Memory} {operation : ASDU.Operation}
    {result : ASDU × Memory} (other : ¬ operation.Counts)
    (performed : asdu.perform memory operation = some result) :
    result.1.smpCnt = asdu.smpCnt ∧ result.1.smpCntLimit = asdu.smpCntLimit := by
  cases operation with
  | setSmpCnt | setSmpCntWrap | increaseSmpCnt => exact absurd trivial other
  | setData index value =>
      obtain ⟨_, _, rfl⟩ := Option.map_eq_some_iff.mp performed
      exact ⟨rfl, rfl⟩
  | setSmpSynch smpSynch =>
      obtain ⟨_, _, rfl⟩ := Option.map_eq_some_iff.mp performed
      exact ⟨rfl, rfl⟩
  | _ =>
      rw [← Option.some.inj performed]
      exact ⟨rfl, rfl⟩

/-- The counter, its limit and the place of the time of an ASDU that is encoded. -/
structure ASDU.Keeps (asdu after : ASDU) : Prop where
  smpCnt : after.smpCnt = asdu.smpCnt
  smpCntLimit : after.smpCntLimit = asdu.smpCntLimit
  refrTm : (asdu.hasRefrTm = false → asdu.refrTm = none) →
    after.hasRefrTm = false → after.refrTm = none

theorem keeps_encodeAllToBuffer (memory : Memory) (bufPos : Nat) (asdus : List ASDU) :
    List.Forall₂ ASDU.Keeps asdus (ASDU.encodeAllToBuffer memory bufPos asdus).value.1 := by
  induction asdus generalizing memory bufPos with
  | nil => exact .nil
  | cons asdu rest ih =>
      simp only [ASDU.encodeAllToBuffer, Traced.value_bind, Traced.value_pure]
      refine .cons ?_ (ih _ _)
      rw [ASDU.value_encodeToBuffer]
      refine ⟨rfl, rfl, fun unplaced without => ?_⟩
      have has : asdu.hasRefrTm = false := without
      simpa [has] using unplaced has

section Publisher

variable {self after : SVPublisher}

/-- What a call on a counter leaves. -/
theorem of_perform_call {asdus : Nat} {index : Fin asdus} {own : CounterCall}
    (performed : self.perform (CounterAction.call index own).operation = some after) :
    ∃ asdu result, self.asduList[index.val]? = some asdu ∧
      asdu.perform self.buffer own.operation = some result ∧ own.after asdu = some result.1 ∧
      after = { self with
        buffer := result.2, asduList := self.asduList.set index.val result.1 } := by
  obtain ⟨asdu, result, found, changed, rfl⟩ := of_perform_onASDU performed
  refine ⟨asdu, result, found, changed, ?_, rfl⟩
  rw [← fst_perform_call asdu self.buffer own, changed]
  rfl

theorem Uncounted.spec (uncounted : Uncounted self) :
    (∃ header, self.Configured header) ∧
      ∀ asdu ∈ self.asduList, asdu.smpCnt = 0 ∧ asdu.smpCntLimit = 65535 := by
  induction uncounted with
  | createEx parameters srcAddr useVlanTag found =>
      exact ⟨⟨_, configured_createEx parameters srcAddr useVlanTag found⟩,
        by simp [SVPublisher.createEx]⟩
  | @addASDU self uncounted svID datset confRev ih =>
      obtain ⟨⟨header, configured⟩, counters⟩ := ih
      refine ⟨⟨header, @Configured.perform self _ header configured
        (.addASDU svID datset confRev) nofun rfl⟩, fun asdu member => ?_⟩
      rcases List.mem_append.mp member with earlier | new
      · exact counters asdu earlier
      · obtain rfl := List.mem_singleton.mp new
        exact ⟨rfl, rfl⟩
  | configure uncounted other performed ih =>
      obtain ⟨⟨header, configured⟩, counters⟩ := ih
      refine ⟨⟨header, @Configured.perform _ _ header configured (.onASDU _ _) nofun performed⟩, ?_⟩
      obtain ⟨asdu, result, found, changed, rfl⟩ := of_perform_onASDU performed
      intro each member
      rcases List.mem_or_eq_of_mem_set member with earlier | rfl
      · exact counters each earlier
      · obtain ⟨smpCnt, smpCntLimit⟩ := counter_perform other changed
        rw [smpCnt, smpCntLimit]
        exact counters asdu (List.mem_of_getElem? found)

end Publisher

/-! ## Runs -/

/-- What every action keeps, and what the preparation of the frame adds: it holds what the ASDUs
say. -/
structure Steady (publisher : SVPublisher) (asdus : Nat) (prepared : Prop) : Prop where
  length : publisher.asduList.length = asdus
  room : publisher.lengthField + 2 ≤ publisher.payloadStart
  unplaced : ∀ asdu ∈ publisher.asduList, asdu.hasRefrTm = false → asdu.refrTm = none
  written : prepared → ∃ start samples, publisher.buffer.Holds start (sampleOctets samples) ∧
    PlacedAll start publisher.asduList samples

section Steady

variable {self after : SVPublisher} {asdus : Nat} {prepared : Prop}

theorem Uncounted.steady (uncounted : Uncounted self) :
    Steady self self.asduList.length False := by
  obtain ⟨⟨header, configured⟩, _⟩ := uncounted.spec
  refine ⟨rfl, ?_, fun asdu member _ => (configured.unplaced asdu member).refrTm, False.elim⟩
  rw [configured.lengthField, configured.payloadStart]
  omega

theorem Steady.setupComplete (steady : Steady self asdus prepared) :
    Steady self.setupComplete.value asdus True := by
  obtain ⟨length, room, unplaced, _⟩ := steady
  rw [value_setupComplete]
  dsimp only
  generalize pduFront (UInt32.ofNat self.asduList.length) self.totalASDULength = pdu
  obtain ⟨samples, _, _, held, _, placed, _⟩ := @encodeAllToBuffer_spec self.asduList
    (self.buffer.put self.payloadStart pdu) (self.payloadStart + pdu.length) unplaced
  have keeps := keeps_encodeAllToBuffer (self.buffer.put self.payloadStart pdu)
    (self.payloadStart + pdu.length) self.asduList
  refine ⟨keeps.length_eq.symm.trans length, room, ?_, fun _ => ⟨_, samples, held.put ?_, placed⟩⟩
  · intro asdu member
    obtain ⟨before, among, kept⟩ := forall₂_mem keeps.flip member
    exact kept.refrTm (unplaced before among)
  · simp only [List.length_cons, List.length_nil]
    omega

theorem Steady.call (steady : Steady self asdus prepared) (index : Fin asdus) (own : CounterCall)
    (performed : self.perform (CounterAction.call index own).operation = some after) :
    Steady after asdus prepared := by
  obtain ⟨length, room, unplaced, written⟩ := steady
  obtain ⟨asdu, result, found, changed, does, rfl⟩ := of_perform_call performed
  refine ⟨(List.length_set).trans length, room, fun each member => ?_, fun ready => ?_⟩
  · rcases List.mem_or_eq_of_mem_set member with earlier | rfl
    · exact unplaced each earlier
    · rw [(CounterCall.after_eq does).1]
      exact unplaced asdu (List.mem_of_getElem? found)
  · obtain ⟨start, samples, held, placed⟩ := written ready
    have bound : index.val < samples.length := by
      rw [← placed.length_eq, length]
      exact index.isLt
    have present := List.getElem?_eq_getElem bound
    obtain ⟨same, place, stands, there, _⟩ := placed.get present
    obtain rfl := Option.some.inj (found.symm.trans stands)
    obtain ⟨next, meant⟩ := there.meant (by cases own <;> nofun) changed
    have front : (self.buffer.octets 0 start).length = start := Memory.length_octets _ _ _
    have whole : self.buffer.Holds 0
        (self.buffer.octets 0 start ++ (sampleOctets samples ++ [])) := by
      rw [List.append_nil, Memory.holds_append, front, Nat.zero_add]
      exact ⟨by rw [Memory.Holds, front], held⟩
    obtain ⟨octets, places⟩ := placed.perform whole front.symm found present changed meant
    rw [List.append_nil, Memory.holds_append, front, Nat.zero_add] at octets
    exact ⟨start, _, octets.2, places⟩

theorem countAll_concat (self : SVPublisher) (actions : List (CounterAction asdus))
    (action : CounterAction asdus) :
    self.countAll (actions ++ [action]) =
      (self.countAll actions).bind fun middle => middle.perform action.operation := by
  rw [countAll, List.map_append, performAll_append]
  congr 1
  funext middle
  exact Option.bind_fun_some _

theorem Steady.countAll (steady : Steady self asdus False)
    {actions : List (CounterAction asdus)} (counted : self.countAll actions = some after) :
    Steady after asdus (.setupComplete ∈ actions) := by
  induction actions using List.reverseRecOn generalizing after with
  | nil =>
      obtain rfl := Option.some.inj counted
      exact { steady with written := nofun }
  | append_singleton before action ih =>
      rw [countAll_concat] at counted
      obtain ⟨middle, earlier, performed⟩ := Option.bind_eq_some_iff.mp counted
      have still := ih earlier
      cases action with
      | call index own =>
          refine { still.call index own performed with written := fun ready => ?_ }
          exact (still.call index own performed).written (by simpa using ready)
      | setupComplete =>
          obtain rfl := Option.some.inj performed
          exact { still.setupComplete with written := fun _ => still.setupComplete.written trivial }

theorem encodeUInt16FixedSize_eq (value : UInt16) :
    encodeUInt16FixedSize value = [highOctet value, lowOctet value] := by
  have low : UInt8.ofNat value.toNat = lowOctet value := by
    apply UInt8.toNat_inj.mp
    rw [lowOctet, UInt8.toNat_ofNat', UInt8.toNat_ofNat', Nat.mod_mod]
  rw [← low]
  rfl

/-- What is encoded of an ASDU has its counter. -/
theorem ASDU.Placed.shown {asdu : ASDU} {position : Nat} {sample : Sample}
    (placed : asdu.Placed position sample) {buffer : Memory}
    (held : buffer.Holds position sample.octets) : asdu.Shown buffer := by
  obtain ⟨front, split⟩ : ∃ front, sample.front = front ++ [0x82, 2] := ⟨_, rfl⟩
  refine ⟨position + front.length, ?_, ?_⟩
  · rw [placed.smpCntBuf, Sample.smpCntAt, split, List.length_append]
    rfl
  · rw [Sample.octets, split, List.append_assoc, Memory.holds_append, ← List.append_assoc,
      Memory.holds_append, ← placed.smpCnt, encodeUInt16FixedSize_eq] at held
    exact held.2.1

/-- Every ASDU of a prepared frame is shown. -/
theorem PlacedAll.shown {position : Nat} {asdus : List ASDU} {samples : List Sample}
    (placed : PlacedAll position asdus samples) {buffer : Memory}
    (held : buffer.Holds position (sampleOctets samples)) : ∀ asdu ∈ asdus, asdu.Shown buffer := by
  induction placed with
  | nil => exact fun _ absent => absurd absent List.not_mem_nil
  | cons first rest ih =>
      rw [sampleOctets, List.flatMap_cons, Memory.holds_append] at held
      intro asdu member
      rcases List.mem_cons.mp member with rfl | later
      · exact first.shown held.1
      · exact ih held.2 asdu later

theorem Steady.shown (steady : Steady self asdus prepared) (ready : prepared) :
    ∀ asdu ∈ self.asduList, asdu.Shown self.buffer := by
  obtain ⟨start, samples, held, placed⟩ := steady.written ready
  exact placed.shown held

/-! ### One action -/

variable {index : Fin asdus} {own : CounterCall} {asdu : ASDU}

/-- A call on an ASDU is performed where it does something. -/
theorem perform_call (found : self.asduList[index.val]? = some asdu) :
    ((self.perform (CounterAction.call index own).operation).bind
      fun after => after.asduList[index.val]?) = own.after asdu := by
  have bound := (List.getElem?_eq_some_iff.mp found).1
  rw [← fst_perform_call asdu self.buffer own, CounterAction.operation, perform_onASDU found]
  cases asdu.perform self.buffer own.operation with
  | none => rfl
  | some result => exact List.getElem?_set_self bound

/-- Until a limit is set an action keeps the limit. -/
theorem limit_perform {action : CounterAction asdus}
    (performed : self.perform action.operation = some after)
    (quiet : ∀ value, action ≠ .call index (.setSmpCntWrap value))
    (found : after.asduList[index.val]? = some asdu) :
    ∃ before, self.asduList[index.val]? = some before ∧
      asdu.smpCntLimit = before.smpCntLimit := by
  cases action with
  | setupComplete =>
      obtain rfl := Option.some.inj performed
      rw [value_setupComplete] at found
      obtain ⟨earlier, there, kept⟩ := forall₂_get (keeps_encodeAllToBuffer _ _ _).flip found
      exact ⟨earlier, there, kept.smpCntLimit⟩
  | call other own =>
      obtain ⟨earlier, result, there, _, does, rfl⟩ := of_perform_call performed
      by_cases same : other = index
      · subst same
        rw [List.getElem?_set_self (List.getElem?_eq_some_iff.mp there).1] at found
        obtain rfl := Option.some.inj found
        refine ⟨earlier, there, (CounterCall.after_eq does).2 ?_⟩
        rintro value rfl
        exact quiet value rfl
      · rw [List.getElem?_set_ne (fun equal => same (Fin.ext equal))] at found
        exact ⟨asdu, found, rfl⟩

/-- The limit of a counter is 65535 until it is set. -/
theorem Uncounted.limit (uncounted : Uncounted self) {actions : List (CounterAction asdus)}
    (unlimited : Unlimited index actions) (found : self.asduAfter actions index = some asdu) :
    asdu.smpCntLimit = 65535 := by
  induction actions using List.reverseRecOn generalizing asdu with
  | nil => exact (uncounted.spec.2 asdu (List.mem_of_getElem? found)).2
  | append_singleton before action ih =>
      obtain ⟨after, counted, present⟩ := Option.bind_eq_some_iff.mp found
      rw [countAll_concat] at counted
      obtain ⟨middle, earlier, performed⟩ := Option.bind_eq_some_iff.mp counted
      obtain ⟨same, there, limit⟩ := limit_perform performed
        (fun value equal => unlimited value (by simp [equal])) present
      rw [limit]
      refine ih (fun value member => unlimited value (List.mem_append_left _ member)) ?_
      rw [asduAfter, earlier]
      exact there

/-- A call after others: the ASDU is what the call leaves of it. -/
theorem asduAfter_call {before : List (CounterAction asdus)}
    (found : self.asduAfter before index = some asdu) :
    self.asduAfter (before ++ [.call index own]) index = own.after asdu := by
  obtain ⟨middle, counted, there⟩ := Option.bind_eq_some_iff.mp found
  rw [asduAfter, countAll_concat, counted, Option.bind_some, perform_call there]

end Steady

/-! ## All runs -/

section Runs

variable {self : SVPublisher} {actions before rest : List (CounterAction self.asduList.length)}

/-- In a run that is defined every ASDU is there after each part of it. -/
theorem exists_asduAfter (uncounted : Uncounted self)
    {after : SVPublisher} (counted : self.countAll before = some after)
    (index : Fin self.asduList.length) : ∃ asdu, self.asduAfter before index = some asdu := by
  have bound : index.val < after.asduList.length := by
    rw [(uncounted.steady.countAll counted).length]
    exact index.isLt
  exact ⟨_, by rw [asduAfter, counted, Option.bind_some, List.getElem?_eq_getElem bound]⟩

/-- A part of a run that is defined is defined. -/
theorem countAll_prefix {ended : SVPublisher}
    (counted : self.countAll (before ++ rest) = some ended) :
    ∃ after, self.countAll before = some after := by
  rw [countAll, List.map_append, performAll_append] at counted
  obtain ⟨after, earlier, _⟩ := Option.bind_eq_some_iff.mp counted
  exact ⟨after, earlier⟩

/-- Increased with a limit. -/
theorem increased {asdu next : ASDU}
    (does : CounterCall.increaseSmpCnt.after asdu = some next) :
    asdu.smpCntLimit ≠ 0 ∧
      next.smpCnt.toNat = (asdu.smpCnt.toNat + 1) % asdu.smpCntLimit.toNat := by
  rw [CounterCall.after, Option.ite_none_left_eq_some] at does
  refine ⟨does.1, ?_⟩
  rw [← Option.some.inj does.2]
  have small := asdu.smpCntLimit.toNat_lt
  have positive : 0 < asdu.smpCntLimit.toNat :=
    Nat.pos_of_ne_zero fun zero => does.1 (UInt16.toNat_inj.mp zero)
  have below := Nat.mod_lt (asdu.smpCnt.toNat + 1) positive
  rw [UInt16.toNat_ofNat', Nat.mod_eq_of_lt (by omega)]

theorem CountsProperly.staysBelow (uncounted : Uncounted self)
    (proper : CountsProperly self actions) : StaysBelow self actions := by
  rintro before rest index asdu rfl found
  obtain ⟨ended, counted⟩ := proper.defined
  rw [List.append_cons] at counted
  obtain ⟨middle, performed⟩ := countAll_prefix counted
  obtain ⟨next, later⟩ := exists_asduAfter uncounted performed index
  have does := (asduAfter_call found).symm.trans later
  obtain ⟨limited, wrapped⟩ := increased does
  refine ⟨limited, fun unlimited => ?_⟩
  have all := proper.unlimited before 1 rest index asdu next (by simp) unlimited found
    (by simpa using later)
  have limit : asdu.smpCntLimit.toNat = 65535 :=
    congrArg UInt16.toNat (uncounted.limit unlimited found)
  rw [limit] at wrapped
  have small := asdu.smpCnt.toNat_lt
  omega

/-- A run that stays below is defined. -/
theorem StaysBelow.defined (uncounted : Uncounted self) (below : StaysBelow self actions) :
    ∀ before rest, actions = before ++ rest → ∃ after, self.countAll before = some after := by
  intro before
  induction before using List.reverseRecOn with
  | nil => exact fun _ _ => ⟨self, rfl⟩
  | append_singleton before action ih =>
      rintro rest rfl
      obtain ⟨middle, earlier⟩ := ih (action :: rest) (by simp)
      rw [countAll_concat, earlier, Option.bind_some]
      cases action with
      | setupComplete => exact ⟨_, rfl⟩
      | call index own =>
          obtain ⟨asdu, found⟩ := exists_asduAfter uncounted earlier index
          have does : ∃ next, own.after asdu = some next := by
            cases own with
            | setSmpCnt | setSmpCntWrap => exact ⟨_, rfl⟩
            | increaseSmpCnt =>
                exact ⟨_, if_neg (below before rest index asdu (by simp) found).1⟩
          obtain ⟨next, does⟩ := does
          rw [asduAfter, earlier, Option.bind_some] at found
          rw [← perform_call found] at does
          obtain ⟨after, performed, _⟩ := Option.bind_eq_some_iff.mp does
          exact ⟨after, performed⟩

/-- Increased again and again, a counter that stays below counts every value. -/
theorem StaysBelow.unlimited (uncounted : Uncounted self) (below : StaysBelow self actions)
    {index : Fin self.asduList.length} (unlimited : Unlimited index before) {asdu : ASDU}
    (found : self.asduAfter before index = some asdu) :
    ∀ times rest next,
      actions = before ++ List.replicate times (.call index .increaseSmpCnt) ++ rest →
      self.asduAfter (before ++ List.replicate times (.call index .increaseSmpCnt)) index =
        some next → next.smpCnt.toNat = (asdu.smpCnt.toNat + times) % 2 ^ 16 := by
  intro times
  induction times with
  | zero =>
      intro rest next _ there
      have small := asdu.smpCnt.toNat_lt
      rw [List.replicate_zero, List.append_nil, found] at there
      rw [← Option.some.inj there, Nat.add_zero, Nat.mod_eq_of_lt small]
  | succ times ih =>
      intro rest next split there
      rw [List.replicate_succ', ← List.append_assoc] at there split
      generalize middleEq : before ++ List.replicate times (.call index .increaseSmpCnt) =
        middle at *
      obtain ⟨ended, counted, _⟩ := Option.bind_eq_some_iff.mp there
      obtain ⟨publisher, earlier⟩ := countAll_prefix counted
      obtain ⟨last, present⟩ := exists_asduAfter uncounted earlier index
      have still : Unlimited index middle := by
        intro value member
        rw [← middleEq, List.mem_append, List.mem_replicate] at member
        rcases member with early | ⟨_, equal⟩
        · exact unlimited value early
        · simp at equal
      rw [List.append_assoc, List.singleton_append] at split
      have count := ih _ last split present
      have limit : last.smpCntLimit.toNat = 65535 :=
        congrArg UInt16.toNat (uncounted.limit still present)
      obtain ⟨_, wrapped⟩ := increased ((asduAfter_call present).symm.trans there)
      rw [limit] at wrapped
      have free := (below middle rest index last split present).2 still
      omega

/-- The counters of a publisher count properly exactly when they stay below their limits. -/
theorem countsProperly_iff (uncounted : Uncounted self) :
    CountsProperly self actions ↔ StaysBelow self actions := by
  refine ⟨CountsProperly.staysBelow uncounted, fun below => ?_⟩
  refine ⟨below.defined uncounted actions [] (by simp), ?_, ?_, ?_⟩
  · intro before rest index asdu next split found there positive
    obtain ⟨_, wrapped⟩ := increased ((asduAfter_call found).symm.trans there)
    exact ⟨wrapped ▸ Nat.mod_lt _ positive, wrapped⟩
  · intro before times rest index asdu next split unlimited found there
    exact below.unlimited uncounted unlimited found times rest next split there
  · intro before rest after split prepared counted asdu member
    exact (uncounted.steady.countAll counted).shown prepared asdu member

end Runs

/-! ## One ASDU -/

/-- A publisher of one ASDU. -/
def oneASDU : SVPublisher :=
  (createEx .svDefault Octets.zero true fun _ => 0).addASDU ⟨[0x41], zero_notMem_a⟩ none 1

/-- Its ASDU. -/
def onlyASDU : Fin oneASDU.asduList.length := ⟨0, Nat.one_pos⟩

theorem uncounted_oneASDU : Uncounted oneASDU := .addASDU (.createEx ..) ..

theorem asduAfter_nil :
    oneASDU.asduAfter [] onlyASDU = some (.new ⟨[0x41], zero_notMem_a⟩ none 1) := rfl

/-- With a limit the counter of a prepared frame counts properly. -/
theorem countsProperly_limited : CountsProperly oneASDU
    [.setupComplete, .call onlyASDU (.setSmpCntWrap 4000), .call onlyASDU .increaseSmpCnt] := by
  refine (countsProperly_iff uncounted_oneASDU).mpr fun before rest index asdu split found => ?_
  rcases before with _ | ⟨first, _ | ⟨second, _ | ⟨third, more⟩⟩⟩
  · simp at split
  · simp at split
  · simp only [List.cons_append, List.nil_append, List.cons.injEq, CounterAction.call.injEq,
      and_true] at split
    obtain ⟨rfl, rfl, rfl, _⟩ := split
    obtain ⟨earlier, present⟩ := @exists_asduAfter oneASDU [.setupComplete] uncounted_oneASDU _ rfl
      onlyASDU
    have limited :=
      (@asduAfter_call oneASDU _ onlyASDU (.setSmpCntWrap 4000) _ _ present).symm.trans found
    rw [← Option.some.inj limited]
    have positive : (4000 : UInt16) ≠ 0 := by decide
    exact ⟨positive, fun unlimited => absurd (by simp) (unlimited 4000)⟩
  · simp at split

/-- A limit of 0 divides by zero; without a limit the counter is 0 after 65534. -/
theorem counter_not_proper :
    ¬ CountsProperly oneASDU
      [.call onlyASDU (.setSmpCntWrap 0), .call onlyASDU .increaseSmpCnt] ∧
    ¬ CountsProperly oneASDU
      [.call onlyASDU (.setSmpCnt 65534), .call onlyASDU .increaseSmpCnt] := by
  constructor
  · intro proper
    have below :=
      proper.staysBelow uncounted_oneASDU [.call onlyASDU (.setSmpCntWrap 0)] [] onlyASDU
    exact (below _ rfl (asduAfter_call asduAfter_nil)).1 rfl
  · intro proper
    have below :=
      proper.staysBelow uncounted_oneASDU [.call onlyASDU (.setSmpCnt 65534)] [] onlyASDU
    have unlimited : Unlimited onlyASDU [.call onlyASDU (.setSmpCnt 65534)] := by
      intro value member
      simp at member
    exact absurd ((below _ rfl (asduAfter_call asduAfter_nil)).2 unlimited) (by decide)

end GridGooseSV.SVPublisher
