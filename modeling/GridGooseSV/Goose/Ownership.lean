import GridGooseSV.Foundation.Ledger
import GridGooseSV.Goose.Bounds
import GridGooseSV.Goose.Creation
import GridGooseSV.Goose.Stream

/-!
# Whose data set is deleted

A subscriber is given a data set by its caller or holds one that the receiver built, and a flag says
which. The data set is deleted when `confRev` changes and when the subscriber is destroyed if the
flag says that it was built, but for an observer whatever the flag says.
-/

namespace GridGooseSV

open BerDecoder

namespace GooseSubscriber

/-- `GooseSubscriber_destroy`, as far as the data set is concerned. -/
def destroy (self : GooseSubscriber) : Traced Access Unit :=
  Traced.emitAll
    (if self.dataSetValuesSelfAllocated ∧ self.dataSetValues.isSome then [.delete] else [])

/-- A subscriber that was created and set up. -/
inductive Made : GooseSubscriber → Prop
  | create (goCbRef : CString) (dataSetValues : Option Components) :
      Made (.create goCbRef dataSetValues)
  | setDstMac {self : GooseSubscriber} (made : self.Made) (dstMac : Octets 6) :
      Made (self.setDstMac dstMac)
  | setAppId {self : GooseSubscriber} (made : self.Made) (appId : UInt16) :
      Made (self.setAppId appId)
  | setListener {self : GooseSubscriber} (made : self.Made) : Made self.setListener
  | setObserver {self : GooseSubscriber} (made : self.Made) : Made self.setObserver

/-- The flag says at first whether there is a data set to be built. -/
theorem Made.selfAllocated {self : GooseSubscriber} (made : self.Made) :
    self.dataSetValuesSelfAllocated = self.dataSetValues.isNone := by
  induction made with
  | create => rfl
  | setDstMac _ _ ih => exact ih
  | setAppId _ _ ih => exact ih
  | setListener _ ih => exact ih
  | setObserver _ ih => exact ih

end GooseSubscriber

/-- The ledger of the subscriber at an index once a frame is received: the events are those of its
delivery. -/
def receiveLedger (index : Nat) (subscribers : List GooseSubscriber) (ledger : Ledger)
    (arrival : Arrival) : Ledger :=
  let reception := parseGooseMessage subscribers arrival.memory arrival.numbytes arrival.now
  if reception.value.delivered = some index then ledger.recordAll reception.trace else ledger

/-- The same once frames are received one after another. -/
def receiveAllLedger (index : Nat) : List GooseSubscriber → Ledger → List Arrival → Ledger
  | _, ledger, [] => ledger
  | subscribers, ledger, arrival :: rest =>
    receiveAllLedger index (receive subscribers arrival)
      (receiveLedger index subscribers ledger arrival) rest

/-- The ledger of the subscriber at an index over a run that ends with its destruction. -/
def lifetimeLedger (index : Nat) (subscribers : List GooseSubscriber) (arrivals : List Arrival) :
    Ledger :=
  let supplied := (subscribers[index]?.bind (·.dataSetValues)).isSome
  let last := receiveAllLedger index subscribers
    { held := if supplied then some .supplied else none } arrivals
  match (receiveAll subscribers arrivals)[index]? with
  | none => last
  | some subscriber => last.recordAll subscriber.destroy.trace

section Delivery

variable {memory : Memory}

namespace GooseSubscriber

theorem handling_dropDataSet (self : GooseSubscriber) (confRev : UInt32) :
    (self.dropDataSet confRev).handling = if self.dataSetValuesSelfAllocated ∧
      self.dataSetValues.isSome ∧ self.confRev ≠ confRev then [.delete] else [] := by
  unfold dropDataSet
  split <;> rfl

theorem handling_dropObserved (self : GooseSubscriber) :
    self.dropObserved.handling =
      if self.isObserver ∧ self.dataSetValues.isSome then [.delete] else [] := by
  unfold dropObserved
  split <;> rfl

theorem handling_takeTimestamp (self : GooseSubscriber) (address : Option Nat) :
    (self.takeTimestamp memory address).handling = [] := by
  cases address with
  | none => rfl
  | some address =>
      rw [takeTimestamp, Traced.handling_bind,
        Traced.handling_of_decodes (decodesBelow_readOctets (Nat.le_refl _))]
      rfl

theorem handling_takeDataSet (self : GooseSubscriber) (address : Option Nat) (length : Nat) :
    (self.takeDataSet memory address length).handling =
      if self.dataSetValues = none ∧ (parseAllDataUnknownValue memory (address.getD 0) length
        self.dataSetValuesSelfAllocated).value.1.isSome then [.store] else [] := by
  unfold takeDataSet
  cases self.dataSetValues with
  | none =>
      simp only [Traced.handling_bind, true_and]
      rw [parseAllDataUnknownValue,
        Traced.handling_of_decodes (decodesBelow_createLoop _ _ (Nat.lt_succ_self _))]
      cases (createLoop memory (length + 1) (address.getD 0) length
        self.dataSetValuesSelfAllocated).value.1 <;> rfl
  | some dataSetValues =>
      rw [Traced.handling_bind,
        Traced.handling_of_decodes (decodesBelow_parseAllData _ (Nat.lt_succ_self _))]
      rfl

/-- What delivery handles: a data set that is not kept is deleted, and one that is built is
stored. -/
theorem handling_deliver (self : GooseSubscriber) (pdu : GoosePdu) (now : UInt64) :
    (self.deliver memory pdu now).handling =
      (if self.dataSetValues.isSome ∧ self.keptDataSet pdu.confRev = none then [.delete] else []) ++
      (if self.keptDataSet pdu.confRev = none ∧ (self.decode memory pdu).dataSetValues.isSome then
        [.store] else []) := by
  unfold deliver
  simp only [Traced.handling_bind, handling_dropDataSet, handling_takeTimestamp,
    handling_dropObserved, handling_takeDataSet, value_dropDataSet, value_takeTimestamp,
    value_dropObserved, Traced.handling_pure, List.nil_append, List.append_nil, ← keptDataSet_eq]
  rw [← List.append_assoc]
  refine congrArg₂ (· ++ ·) ?_ ?_
  · unfold keptDataSet
    by_cases renewed : self.dataSetValuesSelfAllocated ∧ self.confRev ≠ pdu.confRev
    · cases self.dataSetValues <;> simp [renewed]
    · by_cases observer : self.isObserver
      · cases self.dataSetValues <;> simp_all
      · cases self.dataSetValues <;> simp_all
  · unfold decode
    cases self.keptDataSet pdu.confRev <;> simp

end GooseSubscriber

/-- Of all that a payload does, only its delivery handles a data set. -/
theorem handling_parseGoosePayload {subscribers : List GooseSubscriber} {buffer index : Nat}
    {apduLength : Int} {now : UInt64} {subscriber : GooseSubscriber}
    (reached : target memory (pduElements memory buffer apduLength) subscribers = some index)
    (found : subscribers[index]? = some subscriber) :
    (parseGoosePayload subscribers memory buffer apduLength now).handling =
      ((readBy memory (pduElements memory buffer apduLength) subscribers index subscriber).deliver
        memory (GoosePdu.ofElements memory (pduElements memory buffer apduLength).elements)
        now).handling := by
  unfold pduElements at reached ⊢
  unfold parseGoosePayload
  by_cases tag : memory buffer = 0x61
  · simp only [if_pos tag] at reached ⊢
    have octet : (memory.read buffer).handling = [] := rfl
    have header : (decodeLength memory buffer apduLength 1).handling = [] :=
      @Traced.handling_of_decodes _ ((buffer : Int) + apduLength).toNat _
        (decodesBelow_decodeLength (by omega) 1)
    rw [Traced.handling_bind, octet, List.nil_append, Memory.value_read, if_pos tag,
      Traced.handling_bind, header, List.nil_append]
    rcases decoded : (decodeLength memory buffer apduLength 1).value with _ | ⟨start, length⟩
    · simp [decoded, target] at reached
    · simp only [decoded] at reached ⊢
      obtain ⟨_, ends⟩ := decodeLength_spec decoded
      have loop : (elementLoop memory buffer apduLength (start + length) length start
          { subscriberList := subscribers }).handling = [] :=
        @Traced.handling_of_decodes _ ((buffer : Int) + apduLength + 1).toNat _
          (decodesBelow_elementLoop (by omega) (by omega) _ _ _)
      rw [Traced.handling_bind, loop, List.nil_append]
      obtain ⟨goesOn, matching, pdu, strings⟩ := @value_elementLoop memory buffer apduLength
        (start + length) length start (by omega) { subscriberList := subscribers }
      rcases looped : (elementLoop memory buffer apduLength (start + length) length start
        { subscriberList := subscribers }).value with ⟨state, complete⟩
      simp only [looped] at goesOn matching pdu strings ⊢
      generalize elements memory buffer apduLength (start + length) start = scan
        at reached goesOn matching pdu strings ⊢
      unfold target at reached
      dsimp only at reached
      split at reached
      · rename_i ended
        obtain ⟨read, _⟩ := Bool.and_eq_true_iff.mp ended
        rw [if_pos (goesOn.trans ended), PayloadState.finish, matching, reached]
        simp only [strings, found, Option.map_some, pdu read]
        rw [Traced.handling_bind, Traced.handling_pure, List.append_nil]
        rfl
      · contradiction
  · simp [tag, target] at reached

/-- Of all that a frame does, only its delivery handles a data set. -/
theorem handling_parseGooseMessage {subscribers : List GooseSubscriber} {numbytes index : Nat}
    {now : UInt64} {subscriber : GooseSubscriber}
    (reached : deliveredTo memory numbytes subscribers = some index)
    (found : subscribers[index]? = some subscriber) :
    (parseGooseMessage subscribers memory numbytes now).handling =
      ((parsed memory numbytes subscribers index subscriber).deliver memory (framePdu memory)
        now).handling := by
  have goose := (read_of_deliveredTo reached).1
  obtain ⟨long, high, low⟩ := (read_of_deliveredTo reached).1
  have octets : ∀ address count, (memory.readOctets address count).handling = [] :=
    fun address count => Traced.handling_of_decodes (decodesBelow_readOctets (Nat.le_refl _))
  have octet : ∀ address, (memory.read address).handling = [] := fun _ => rfl
  have alike := selectAlike_findInterested memory subscribers
  rw [deliveredTo, if_pos goose, target_congr alike] at reached
  unfold parseGooseMessage
  rw [if_neg (by omega)]
  simp only [Traced.handling_bind, octet, octets, Memory.value_read, high, low, ne_eq,
    not_true_eq_false, ↓reduceIte, List.nil_append]
  refine (handling_parseGoosePayload reached
    (by rw [findInterestedSubscriber_eq, found]; rfl)).trans ?_
  rw [parsed, if_pos goose, ← readBy_congr alike]
  rfl

/-- The flag is set whenever a data set is built. -/
theorem selfAllocated_of_fillElements
    {build : Nat → Nat → Bool → Traced Access (Option Components × Bool)}
    {buffer allDataLength fuel bufPos elementIndex : Nat} {dataSetValues : Components}
    {selfAllocated : Bool}
    (built : (fillElements memory build buffer allDataLength fuel bufPos elementIndex dataSetValues
      selfAllocated).value.1.isSome) :
    (fillElements memory build buffer allDataLength fuel bufPos elementIndex dataSetValues
      selfAllocated).value.2 = true := by
  induction fuel generalizing bufPos elementIndex dataSetValues selfAllocated with
  | zero => rfl
  | succ fuel ih =>
      revert built
      rw [value_fillElements_succ]
      by_cases inside : bufPos < allDataLength
      · rw [if_pos inside]
        rcases (decodeLength memory buffer allDataLength (bufPos + 1)).value with
          _ | ⟨start, length⟩
        · simp
        · dsimp only
          rcases (createElement memory build (memory (buffer + bufPos)) (buffer + start) length
            selfAllocated).value with ⟨_ | _ | value, after⟩
          · simp
          · exact ih
          · exact ih
      · rw [if_neg inside]
        exact fun _ => rfl

theorem selfAllocated_of_built {address length : Nat} {selfAllocated : Bool}
    (built : (parseAllDataUnknownValue memory address length selfAllocated).value.1.isSome) :
    (parseAllDataUnknownValue memory address length selfAllocated).value.2 = true := by
  unfold parseAllDataUnknownValue createLoop at built ⊢
  rw [Traced.value_bind] at built ⊢
  cases counted : (countElements memory address length length 0 0).value with
  | none =>
      rw [counted] at built
      contradiction
  | some count =>
      rw [counted] at built
      exact selfAllocated_of_fillElements built

end Delivery

/-! ## The ledger of a subscriber -/

/-- A ledger holds a data set when the subscriber does, and the flag of the subscriber says whether
it was created. -/
structure Accounts (supplied : Bool) (ledger : Ledger) (subscriber : GooseSubscriber) : Prop where
  consistent : ledger.Consistent supplied
  held : ledger.held.isSome = subscriber.dataSetValues.isSome
  flag : ∀ origin, ledger.held = some origin →
    subscriber.dataSetValuesSelfAllocated = decide (origin ≠ .supplied)

namespace Accounts

variable {supplied : Bool} {ledger : Ledger} {self : GooseSubscriber}

theorem held_eq_none_iff (accounts : Accounts supplied ledger self) :
    ledger.held = none ↔ self.dataSetValues = none := by
  rw [← Option.isNone_iff_eq_none, ← Option.isNone_iff_eq_none, ← Option.not_isSome,
    ← Option.not_isSome, accounts.held]

/-- What is not kept is deleted. -/
theorem dropped (accounts : Accounts supplied ledger self) :
    let after := ledger.recordAll (if self.dataSetValues.isSome then [.delete] else [])
    after.Consistent supplied ∧ after.held = none := by
  by_cases present : self.dataSetValues.isSome
  · rw [if_pos present]
    exact ⟨accounts.consistent.delete, rfl⟩
  · rw [if_neg present]
    refine ⟨accounts.consistent, accounts.held_eq_none_iff.mpr ?_⟩
    simpa using present

/-- Delivery keeps the accounts. -/
theorem deliver (accounts : Accounts supplied ledger self) (memory : Memory) (pdu : GoosePdu)
    (now : UInt64) :
    Accounts supplied (ledger.recordAll (self.deliver memory pdu now).handling)
      (self.deliver memory pdu now).value := by
  rw [GooseSubscriber.handling_deliver, GooseSubscriber.value_deliver]
  cases kept : self.keptDataSet pdu.confRev with
  | some dataSetValues =>
      have present : self.dataSetValues = some dataSetValues := by
        unfold GooseSubscriber.keptDataSet at kept
        split at kept
        · contradiction
        · exact kept
      simp only [reduceCtorEq, and_false, false_and, ↓reduceIte, List.append_nil]
      refine ⟨accounts.consistent, ?_, fun origin held => ?_⟩
      · rw [Ledger.recordAll, List.foldl_nil, accounts.held, present]
        simp [GooseSubscriber.decode, kept]
      · simpa [GooseSubscriber.decode, kept] using accounts.flag origin held
  | none =>
      obtain ⟨consistent, free⟩ := accounts.dropped
      simp only [and_true, true_and, Ledger.recordAll_append]
      by_cases built : (self.decode memory pdu).dataSetValues.isSome
      · rw [if_pos built]
        refine ⟨consistent.store free, by rw [built]; rfl, fun origin held => ?_⟩
        obtain rfl : _ = origin := Option.some.inj held
        have flagged : (self.decode memory pdu).selfAllocated = true := by
          unfold GooseSubscriber.decode at built ⊢
          simp only [kept] at built ⊢
          exact selfAllocated_of_built built
        simpa using flagged
      · rw [if_neg built]
        refine ⟨consistent, ?_, fun origin held => ?_⟩
        · rw [Ledger.recordAll, List.foldl_nil, free]
          simpa using built
        · rw [Ledger.recordAll, List.foldl_nil, free] at held
          contradiction

/-- Only an observer has its supplied data set deleted when a frame is delivered. -/
theorem supplied_deliver (accounts : Accounts supplied ledger self) (memory : Memory)
    (pdu : GoosePdu) (now : UInt64) :
    (ledger.recordAll (self.deliver memory pdu now).handling).held = some .supplied ↔
      ledger.held = some .supplied ∧ ¬ self.isObserver := by
  rw [GooseSubscriber.handling_deliver]
  cases kept : self.keptDataSet pdu.confRev with
  | some dataSetValues =>
      have plain : ¬ self.isObserver := by
        intro observer
        simp [GooseSubscriber.keptDataSet, observer] at kept
      simp [Ledger.recordAll, plain]
  | none =>
      obtain ⟨_, free⟩ := accounts.dropped
      have gone : (ledger.recordAll ((if self.dataSetValues.isSome ∧ True then [.delete] else []) ++
          if True ∧ (self.decode memory pdu).dataSetValues.isSome then [.store] else [])).held ≠
            some .supplied := by
        simp only [and_true, true_and, Ledger.recordAll_append]
        by_cases built : (self.decode memory pdu).dataSetValues.isSome
        · rw [if_pos built]
          simp [Ledger.recordAll, Ledger.record]
        · rw [if_neg built, Ledger.recordAll, List.foldl_nil, free]
          simp
      refine iff_of_false (by simpa using gone) ?_
      rintro ⟨held, plain⟩
      have unset := accounts.flag _ held
      have present := accounts.held
      simp [GooseSubscriber.keptDataSet, plain, unset] at kept
      simp [held, kept] at present

theorem receiveLedger_eq (index : Nat) (subscribers : List GooseSubscriber) (ledger : Ledger)
    (arrival : Arrival) :
    receiveLedger index subscribers ledger arrival = if Matches subscribers index arrival then
      ledger.recordAll (parseGooseMessage subscribers arrival.memory arrival.numbytes
        arrival.now).handling
      else ledger := by
  unfold receiveLedger Matches
  dsimp only
  rw [(received_parseGooseMessage subscribers arrival.memory arrival.numbytes
    arrival.now).delivered, Ledger.recordAll_handling]
  rfl

/-- Reception keeps the accounts of every subscriber. -/
theorem receive {subscribers : List GooseSubscriber} {index : Nat}
    (found : subscribers[index]? = some self) (accounts : Accounts supplied ledger self)
    (arrival : Arrival) :
    ∃ after, (receive subscribers arrival)[index]? = some after ∧
      Accounts supplied (receiveLedger index subscribers ledger arrival) after ∧
      after.isObserver = self.isObserver ∧
      ((receiveLedger index subscribers ledger arrival).held = some .supplied ↔
        ledger.held = some .supplied ∧
          ¬ (self.isObserver ∧ Matches subscribers index arrival)) := by
  have same := parsed_eq arrival.memory arrival.numbytes subscribers index self
  generalize before : parsed arrival.memory arrival.numbytes subscribers index self = read at same
  have earlier : Accounts supplied ledger read := by
    rw [same]
    exact ⟨accounts.consistent, accounts.held, accounts.flag⟩
  have observer : read.isObserver = self.isObserver := by rw [same]
  rw [getElem?_receive, found, Option.map_some, receiveLedger_eq, before]
  dsimp only
  by_cases reached : Matches subscribers index arrival
  · rw [if_pos reached, if_pos reached, handling_parseGooseMessage reached found, before]
    refine ⟨_, rfl, earlier.deliver _ _ _, ?_, ?_⟩
    · rw [GooseSubscriber.value_deliver]
      exact observer
    · rw [earlier.supplied_deliver, observer]
      simp [reached]
  · rw [if_neg reached, if_neg reached]
    exact ⟨_, rfl, earlier, observer, by simp [reached]⟩

/-- The accounts over a run. -/
theorem receiveAll {subscribers : List GooseSubscriber} {index : Nat}
    (found : subscribers[index]? = some self) (accounts : Accounts supplied ledger self)
    (arrivals : List Arrival) :
    ∃ after, (receiveAll subscribers arrivals)[index]? = some after ∧
      Accounts supplied (receiveAllLedger index subscribers ledger arrivals) after ∧
      ((receiveAllLedger index subscribers ledger arrivals).held = some .supplied ↔
        ledger.held = some .supplied ∧
          ¬ (self.isObserver ∧ ∃ arrival ∈ arrivals, Matches subscribers index arrival)) := by
  induction arrivals generalizing subscribers ledger self with
  | nil => exact ⟨self, found, accounts, by simp [receiveAllLedger]⟩
  | cons arrival rest ih =>
      obtain ⟨after, reached, kept, observer, first⟩ := accounts.receive found arrival
      obtain ⟨last, final, all, others⟩ := ih reached kept
      refine ⟨last, final, all, ?_⟩
      rw [receiveAllLedger, others, first, observer]
      have alike : ∀ other, Matches (GridGooseSV.receive subscribers arrival) index other ↔
          Matches subscribers index other :=
        fun other => (matches_congr (selectAlike_receive subscribers arrival) index other).symm
      simp only [alike, List.mem_cons, exists_eq_or_imp, and_or_left, not_or, and_assoc]

end Accounts

/-! ## Whole lives -/

/-- The data set that was supplied is not deleted, and every data set that was created is deleted
once. -/
structure Ledger.Sound (ledger : Ledger) : Prop where
  supplied : .supplied ∉ ledger.deleted
  created : ∀ number < ledger.created, ledger.deleted.count (.created number) = 1

/-- Destruction deletes a data set that was created and no other. -/
theorem Accounts.destroyed {supplied : Bool} {ledger : Ledger} {self : GooseSubscriber}
    (accounts : Accounts supplied ledger self) :
    let final := ledger.recordAll self.destroy.trace
    (∀ number < final.created, final.deleted.count (.created number) = 1) ∧
      (.supplied ∈ final.deleted ↔ supplied ∧ ledger.held ≠ some .supplied) := by
  obtain ⟨consistent, held, flag⟩ := accounts
  have trace : self.destroy.trace = if self.dataSetValuesSelfAllocated ∧
    self.dataSetValues.isSome then [.delete] else [] := rfl
  rw [trace]
  by_cases deletes : self.dataSetValuesSelfAllocated ∧ self.dataSetValues.isSome
  · rw [if_pos deletes]
    have after := consistent.delete
    refine ⟨fun number inside => ?_, ?_⟩
    · refine (after.created_deleted number).trans (if_pos ⟨inside, ?_⟩)
      exact Option.some_ne_none _ ∘ Eq.symm
    · refine after.supplied_deleted.trans (and_congr_right fun _ => ?_)
      refine iff_of_true (Option.some_ne_none _ ∘ Eq.symm) fun holds => ?_
      have unset := flag _ holds
      simp [deletes.1] at unset
  · rw [if_neg deletes]
    refine ⟨fun number inside => ?_, consistent.supplied_deleted⟩
    refine (consistent.created_deleted number).trans
      (if_pos ⟨inside, fun holds => deletes ⟨?_, ?_⟩⟩)
    · simpa using flag _ holds
    · rw [← held, holds]
      rfl

/-- Whatever frames a subscriber has received before it is destroyed: every data set that was
created for it is deleted once, and the one that it was supplied with is not deleted either exactly
if it is no observer with a data set that a frame is delivered to. -/
theorem lifetime_sound_iff {subscribers : List GooseSubscriber} {index : Nat}
    {self : GooseSubscriber} (found : subscribers[index]? = some self) (made : self.Made)
    (arrivals : List Arrival) :
    let ledger := lifetimeLedger index subscribers arrivals
    (∀ number < ledger.created, ledger.deleted.count (.created number) = 1) ∧
      (ledger.Sound ↔ ¬ (self.dataSetValues.isSome ∧ self.isObserver ∧
        ∃ arrival ∈ arrivals, Matches subscribers index arrival)) := by
  have start : Accounts self.dataSetValues.isSome
      { held := if self.dataSetValues.isSome then some .supplied else none } self := by
    refine ⟨Ledger.consistent_start _, ?_, fun origin held => ?_⟩
    · cases self.dataSetValues <;> rfl
    · cases present : self.dataSetValues with
      | none => simp [present] at held
      | some dataSetValues =>
          obtain rfl : Origin.supplied = origin := by simpa [present] using held
          rw [made.selfAllocated, present]
          rfl
  obtain ⟨last, reached, accounts, kept⟩ := start.receiveAll found arrivals
  obtain ⟨created, supplied⟩ := accounts.destroyed
  have whole : lifetimeLedger index subscribers arrivals =
      (receiveAllLedger index subscribers
        { held := if self.dataSetValues.isSome then some .supplied else none }
        arrivals).recordAll last.destroy.trace := by
    unfold lifetimeLedger
    simp only [found, reached, Option.bind_some]
  dsimp only at created supplied ⊢
  rw [whole]
  refine ⟨created, ⟨fun sound => ?_, fun keeps => ⟨fun deleted => ?_, created⟩⟩⟩
  · have unharmed := mt supplied.mpr sound.supplied
    rintro ⟨given, delivered⟩
    refine unharmed ⟨given, fun holds => (kept.mp holds).2 delivered⟩
  · obtain ⟨given, lost⟩ := supplied.mp deleted
    exact lost (kept.mpr ⟨by simp [given], fun delivered => keeps ⟨given, delivered⟩⟩)

/-- A subscriber that is given a data set of one boolean. -/
def givenSubscriber : GooseSubscriber :=
  .create ⟨[0x41], zero_notMem_a⟩ (some [some (.boolean false)])

/-- The arrival of a frame for `A` with a data set of one boolean. -/
def booleanArrival : Arrival where
  memory := Memory.ofOctets [0, 0, 0x88, 0xb8, 0, 1, 0, 18, 0, 0, 0, 0,
    0x61, 8, 0x80, 1, 0x41, 0xab, 3, 0x83, 1, 1] fun _ => 0
  numbytes := 22
  now := 0

theorem lifetime_sound_of_plain :
    let ledger := lifetimeLedger 0 [givenSubscriber] [booleanArrival]
    (∀ number < ledger.created, ledger.deleted.count (.created number) = 1) ∧
      (ledger.Sound ↔ ¬ (givenSubscriber.dataSetValues.isSome ∧ givenSubscriber.isObserver ∧
        ∃ arrival ∈ [booleanArrival], Matches [givenSubscriber] 0 arrival)) :=
  lifetime_sound_iff rfl (.create _ _) [booleanArrival]

/-- The data set that an observer was given is deleted when a frame is delivered to it. -/
theorem lifetime_deletes_supplied :
    ¬ ∀ (subscribers : List GooseSubscriber) (index : Nat) (self : GooseSubscriber),
      subscribers[index]? = some self → self.Made → ∀ arrivals : List Arrival,
        (lifetimeLedger index subscribers arrivals).Sound := by
  intro claim
  have sound := claim [givenSubscriber.setObserver] 0 _ rfl (.setObserver (.create _ _))
    [booleanArrival]
  have deleted : .supplied ∈
      (lifetimeLedger 0 [givenSubscriber.setObserver] [booleanArrival]).deleted := by
    decide +kernel
  exact sound.supplied deleted

end GridGooseSV
