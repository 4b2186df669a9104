import GridGooseSV.Apps.GooseSchedule
import GridGooseSV.Apps.SvPublisher

/-!
# The samples of the SV publisher application

The application has arrays for the samples of eight ASDUs. `SamplesPerMessage` says how many of them
it uses, from 0 to 255. An event takes a sample for the next ASDU, and a message is sent when every
ASDU has one.
-/

namespace GridGooseSV.Ns3

open GOOSEPublisher (budget budget_lt)
open GridGooseSV.SVPublisher (Sample)

/-- An access to an array of the application. -/
inductive SVAccess
  | asdus (j : Nat)
  | offsets (j i : Nat)
  | vals (j i : Nat)
  | tss (j : Nat)
  deriving DecidableEq, Repr

namespace SVAccess

/-- The place of the ASDU that an access is for. -/
def slot : SVAccess → Nat
  | asdus j => j
  | offsets j _ => j
  | vals j _ => j
  | tss j => j

/-- The access is to one of the 8 slots, or one of the 8 values of a slot. -/
def InArray : SVAccess → Prop
  | asdus j => j < 8
  | offsets j i => j < 8 ∧ i < 8
  | vals j i => j < 8 ∧ i < 8
  | tss j => j < 8

end SVAccess

namespace SVPublisher

/-- What the loop of `ns3::SVPublisher::StartApplication` accesses. -/
def startAccesses (samplesPerMessage : UInt8) : List SVAccess :=
  (List.range samplesPerMessage.toNat).flatMap fun j =>
    [.asdus j] ++ (List.range 8).flatMap (fun i => [.asdus j, .offsets j i]) ++ [.asdus j, .tss j]

/-- What `ns3::SVPublisher::UpdateValues` accesses. -/
def updateAccesses (sampleIndex : UInt8) : List SVAccess :=
  (List.range 8).map fun i => .vals sampleIndex.toNat i

/-- What `ns3::SVPublisher::Measure` accesses. -/
def measureAccesses (self : SVPublisher) : List SVAccess :=
  if self.count = 0 then []
  else
    let j := self.sampleIndex.toNat
    updateAccesses self.sampleIndex ++
      (List.range 8).flatMap (fun i => [.asdus j, .offsets j i, .vals j i]) ++
      [.asdus j, .asdus j, .tss j]

end SVPublisher

/-- An access to an array, at the slot of an ASDU that was added. -/
structure SVAccess.Proper (access : SVAccess) (application : SVPublisher) : Prop where
  inArray : access.InArray
  added : ∃ slot, application.slots[access.slot]? = some slot ∧
    slot.asdu < application.svPublisher.asduList.length

/-- An event sends a message if it is the last one of so many, as long as there are packets. -/
def SendsNext (samplesPerMessage : UInt8) (maxPackets : UInt64)
    (before : List (Option (List UInt8))) (output : Option (List UInt8)) : Prop :=
  output.isSome ↔ samplesPerMessage.toNat ∣ before.length + 1 ∧
    (before.length + 1) / samplesPerMessage.toNat ≤ budget maxPackets

/-- The application between events, and what its events have sent. -/
structure SampledProperly (samplesPerMessage : UInt8) (maxPackets : UInt64)
    (application : SVPublisher) (outputs : List (Option (List UInt8))) : Prop where
  accesses : ∀ access ∈ application.measureAccesses, access.Proper application
  sampleIndex : application.sampleIndex.toNat < samplesPerMessage.toNat
  sent : EachAfter (SendsNext samplesPerMessage maxPackets) outputs
  accounted : application.sent.toNat + application.count.toNat = budget maxPackets
  exhausted : application.count = 0 → ∀ measurement,
    application.measure measurement = some (application, none)

/-- The application starts, and whatever it measures goes properly. -/
def SamplesProperly (samplesPerMessage : UInt8) (maxPackets : UInt64) (srcAddr : Octets 6)
    (found : Memory) : Prop :=
  (∀ access ∈ SVPublisher.startAccesses samplesPerMessage, access.InArray) ∧
    ∃ started, SVPublisher.startApplication maxPackets samplesPerMessage srcAddr found =
        some started ∧
      ∀ measurements, ∃ application outputs,
        runAll SVPublisher.measure started measurements = some (application, outputs) ∧
          SampledProperly samplesPerMessage maxPackets application outputs

/-! ## Starting -/

section Starting

variable {maxPackets : UInt64} {samplesPerMessage : UInt8} {srcAddr : Octets 6} {found : Memory}

/-- The loop stays in the arrays exactly if it has at most eight rounds. -/
theorem startAccesses_inArray_iff :
    (∀ access ∈ SVPublisher.startAccesses samplesPerMessage, access.InArray) ↔
      samplesPerMessage.toNat ≤ 8 := by
  constructor
  · intro inArray
    by_contra many
    have ninth : SVAccess.asdus 8 ∈ SVPublisher.startAccesses samplesPerMessage :=
      List.mem_flatMap.mpr ⟨8, List.mem_range.mpr (Nat.not_le.mp many), by simp⟩
    exact Nat.lt_irrefl 8 (inArray _ ninth)
  · intro few access member
    obtain ⟨j, inside, among⟩ := List.mem_flatMap.mp member
    have slot : j < 8 := Nat.lt_of_lt_of_le (List.mem_range.mp inside) few
    simp only [List.mem_append, List.mem_flatMap, List.mem_range, List.mem_cons,
      List.not_mem_nil, or_false] at among
    rcases among with (rfl | ⟨i, column, rfl | rfl⟩) | rfl | rfl
    · exact slot
    · exact slot
    · exact ⟨slot, column⟩
    · exact slot
    · exact slot

/-- Beyond the arrays the loop is not defined. -/
theorem addASDUs_eq_none (publisher : GridGooseSV.SVPublisher) {slots : List SVSlot}
    {rounds : Nat} (inside : slots.length ≤ 8) (many : 8 < slots.length + rounds) :
    addASDUs publisher slots rounds = none := by
  induction rounds generalizing publisher slots with
  | zero => omega
  | succ rounds ih =>
      rw [addASDUs]
      by_cases room : slots.length < 8
      · simp only [if_pos room, Option.bind_eq_bind, Option.bind_eq_none_iff]
        intro floats _ timestamp _
        apply ih
        · rw [List.length_append, List.length_singleton]
          omega
        · rw [List.length_append, List.length_singleton]
          omega
      · exact if_neg room

/-- The application starts exactly if it stays in the arrays. -/
theorem startApplication_isSome_iff :
    (SVPublisher.startApplication maxPackets samplesPerMessage srcAddr found).isSome ↔
      ∀ access ∈ SVPublisher.startAccesses samplesPerMessage, access.InArray := by
  rw [startAccesses_inArray_iff]
  constructor
  · intro starts
    by_contra many
    have nothing := @addASDUs_eq_none (.create .svDefault srcAddr found) []
      samplesPerMessage.toNat (Nat.zero_le 8) (by rw [List.length_nil]; omega)
    simp [SVPublisher.startApplication, nothing] at starts
  · intro few
    rw [startApplication_eq few]
    rfl

end Starting

/-! ## Measuring -/

section Measuring

variable {maxPackets : UInt64} {samplesPerMessage : UInt8} {srcAddr : Octets 6}
variable {self after : SVPublisher} {output : Option (List UInt8)}

/-- What an event does to the numbers of the application. -/
inductive Counted (self : SVPublisher) : SVPublisher → Option (List UInt8) → Prop
  | exhausted (nothing : self.count = 0) : Counted self self none
  | kept {after : SVPublisher} (left : self.count ≠ 0)
      (more : self.sampleIndex + 1 ≠ self.samplesPerMessage)
      (sampleIndex : after.sampleIndex = self.sampleIndex + 1)
      (count : after.count = self.count) (sent : after.sent = self.sent) :
      Counted self after none
  | full {after : SVPublisher} {packet : List UInt8} (left : self.count ≠ 0)
      (last : self.sampleIndex + 1 = self.samplesPerMessage) (sampleIndex : after.sampleIndex = 0)
      (count : after.count = self.count - 1) (sent : after.sent = self.sent + 1) :
      Counted self after (some packet)

theorem counted_of_measure {measurement : Measurement}
    (measured : self.measure measurement = some (after, output)) : Counted self after output := by
  rw [SVPublisher.measure] at measured
  split at measured
  · rename_i nothing
    obtain ⟨rfl, rfl⟩ := Prod.mk.inj (Option.some.inj measured)
    exact .exhausted nothing
  · rename_i left
    simp only [Option.bind_eq_bind, Option.bind_eq_some_iff] at measured
    obtain ⟨slot, _, publisher, _, measured⟩ := measured
    split at measured
    · rename_i last
      obtain ⟨rfl, rfl⟩ := Prod.mk.inj (Option.some.inj measured)
      exact .full left last rfl rfl rfl
    · rename_i more
      obtain ⟨rfl, rfl⟩ := Prod.mk.inj (Option.some.inj measured)
      exact .kept left more rfl rfl rfl

/-- What holds between events. -/
structure Sampled (srcAddr : Octets 6) (samplesPerMessage : UInt8) (maxPackets : UInt64)
    (application : SVPublisher) (outputs : List (Option (List UInt8))) : Prop where
  running : ∃ frames samples,
    Running srcAddr samplesPerMessage.toNat frames application samples
  accounted : application.sent.toNat + application.count.toNat = budget maxPackets
  taken : application.count ≠ 0 → outputs.length =
    samplesPerMessage.toNat * application.sent.toNat + application.sampleIndex.toNat
  spent : application.count = 0 → samplesPerMessage.toNat * budget maxPackets ≤ outputs.length
  sent : EachAfter (SendsNext samplesPerMessage maxPackets) outputs

/-- An event keeps it. -/
theorem Sampled.measure {outputs : List (Option (List UInt8))}
    (sampled : Sampled srcAddr samplesPerMessage maxPackets self outputs)
    (measurement : Measurement) :
    ∃ after output, self.measure measurement = some (after, output) ∧
      Sampled srcAddr samplesPerMessage maxPackets after (outputs ++ [output]) := by
  obtain ⟨⟨frames, samples, running⟩, accounted, taken, spent, sent⟩ := sampled
  obtain ⟨⟨after, output⟩, measured, does⟩ := running.measure measurement
  have still : ∃ frames samples,
      Running srcAddr samplesPerMessage.toNat frames after samples := by
    cases does with
    | stopped _ => exact ⟨_, _, running⟩
    | kept _ running _ _ => exact ⟨_, _, running⟩
    | sent _ running _ _ => exact ⟨_, _, running⟩
  obtain ⟨_, _, _, number, _, index, _⟩ := running
  have most := budget_lt maxPackets
  have unit : (1 : UInt64).toNat = 1 := rfl
  have step : (self.sampleIndex + 1).toNat = self.sampleIndex.toNat + 1 := by
    have small := samplesPerMessage.toNat_lt
    rw [UInt8.toNat_add, show (1 : UInt8).toNat = 1 from rfl]
    omega
  refine ⟨after, output, measured, ?_⟩
  cases counted_of_measure measured with
  | exhausted nothing =>
      refine ⟨still, accounted, fun left => absurd nothing left, fun _ => ?_,
        sent.concat (iff_of_false Bool.false_ne_true ?_)⟩
      · rw [List.length_append]
        exact Nat.le_add_right_of_le (spent nothing)
      · rintro ⟨⟨messages, whole⟩, few⟩
        have enough := spent nothing
        rw [whole, Nat.mul_div_cancel_left _ (by omega)] at few
        have bound := Nat.mul_le_mul_left samplesPerMessage.toNat few
        omega
  | kept left more sampleIndex count same =>
      have place := taken left
      have inside : self.sampleIndex.toNat + 1 ≠ samplesPerMessage.toNat := by
        rw [← step, ← number]
        exact fun equal => more (UInt8.toNat_inj.mp equal)
      refine ⟨still, by rw [same, count, accounted], fun _ => ?_,
        fun nothing => absurd (count ▸ nothing) left,
        sent.concat (iff_of_false Bool.false_ne_true ?_)⟩
      · rw [List.length_append, List.length_singleton, place, same, sampleIndex, step]
        omega
      · rintro ⟨divides, _⟩
        rw [place, Nat.add_assoc, Nat.dvd_add_right (Nat.dvd_mul_right _ _)] at divides
        have least := Nat.le_of_dvd (Nat.succ_pos _) divides
        omega
  | full left last sampleIndex count more =>
      have place := taken left
      have positive : self.count.toNat ≠ 0 := fun zero => left (UInt64.toNat_inj.mp zero)
      have one : (1 : UInt64) ≤ self.count := by
        rw [UInt64.le_iff_toNat_le, unit]
        omega
      have fewer : after.count.toNat = self.count.toNat - 1 := by
        rw [count, UInt64.toNat_sub_of_le _ _ one, unit]
      have another : after.sent.toNat = self.sent.toNat + 1 := by
        rw [more, UInt64.toNat_add, unit]
        omega
      have whole : outputs.length + 1 =
          samplesPerMessage.toNat * (self.sent.toNat + 1) := by
        rw [place, Nat.mul_succ, ← number, ← last, step, Nat.add_assoc]
      refine ⟨still, by omega, fun _ => ?_, fun nothing => ?_, sent.concat (iff_of_true rfl ?_)⟩
      · rw [List.length_append, List.length_singleton, whole, another, sampleIndex]
        rfl
      · have zero : after.count.toNat = 0 := by rw [nothing]; rfl
        have all : budget maxPackets = self.sent.toNat + 1 := by omega
        rw [List.length_append, List.length_singleton, whole, all]
      · rw [whole, Nat.mul_div_cancel_left _ (by omega)]
        exact ⟨Nat.dvd_mul_right _ _, by omega⟩

/-- A slot of the application holds an ASDU that was added. -/
theorem proper_of_running {frames : Nat} {samples : List Sample}
    (running : Running srcAddr samplesPerMessage.toNat frames self samples)
    (few : samplesPerMessage.toNat ≤ 8) {access : SVAccess}
    (member : access ∈ self.measureAccesses) : access.Proper self := by
  have asdus := running.ready.placed.length_eq
  rw [running.length] at asdus
  have inside := running.sampleIndex
  have here : access.slot = self.sampleIndex.toNat ∧ access.InArray := by
    unfold SVPublisher.measureAccesses SVPublisher.updateAccesses at member
    split at member
    · exact absurd member List.not_mem_nil
    · simp only [List.mem_append, List.mem_map, List.mem_flatMap, List.mem_range, List.mem_cons,
        List.not_mem_nil, or_false] at member
      have slot : self.sampleIndex.toNat < 8 := Nat.lt_of_lt_of_le inside few
      rcases member with (⟨i, column, rfl⟩ | ⟨i, column, rfl | rfl | rfl⟩) | rfl | rfl | rfl
      · exact ⟨rfl, slot, column⟩
      · exact ⟨rfl, slot⟩
      · exact ⟨rfl, slot, column⟩
      · exact ⟨rfl, slot, column⟩
      · exact ⟨rfl, slot⟩
      · exact ⟨rfl, slot⟩
      · exact ⟨rfl, slot⟩
  refine ⟨here.2, slotOf self.sampleIndex.toNat, ?_, ?_⟩
  · rw [here.1, running.slots, List.getElem?_map, List.getElem?_range inside, Option.map_some]
  · rw [asdus]
    exact inside

/-- An application that starts holds it. -/
theorem sampled_startApplication {found : Memory} (positive : 1 ≤ samplesPerMessage.toNat)
    (few : samplesPerMessage.toNat ≤ 8) :
    ∃ started, SVPublisher.startApplication maxPackets samplesPerMessage srcAddr found =
        some started ∧ Sampled srcAddr samplesPerMessage maxPackets started [] := by
  obtain ⟨started, samples, starts, running, left, first⟩ :=
    @startApplication_running srcAddr found maxPackets _ positive few
  have same := Option.some.inj ((startApplication_eq few).symm.trans starts)
  have sent : started.sent = 0 := by rw [← same]
  refine ⟨started, starts, ⟨_, _, running⟩, ?_, fun _ => ?_, fun nothing => absurd nothing left,
    eachAfter_nil⟩
  · rw [← same]
    dsimp only
    unfold budget
    split
    · rfl
    · exact Nat.zero_add _
  · rw [sent, first]
    rfl

end Measuring

/-- The application samples properly exactly if `SamplesPerMessage` is from 1 to 8. -/
theorem samplesProperly_iff (samplesPerMessage : UInt8) (maxPackets : UInt64)
    (srcAddr : Octets 6) (found : Memory) :
    SamplesProperly samplesPerMessage maxPackets srcAddr found ↔
      1 ≤ samplesPerMessage.toNat ∧ samplesPerMessage.toNat ≤ 8 := by
  constructor
  · rintro ⟨inArray, started, _, runs⟩
    obtain ⟨application, _, _, properly⟩ := runs []
    exact ⟨Nat.lt_of_le_of_lt (Nat.zero_le _) properly.sampleIndex,
      startAccesses_inArray_iff.mp inArray⟩
  · rintro ⟨positive, few⟩
    obtain ⟨started, starts, sampled⟩ := @sampled_startApplication maxPackets _ srcAddr found
      positive few
    refine ⟨startAccesses_inArray_iff.mpr few, started, starts, fun measurements => ?_⟩
    obtain ⟨application, outputs, ran, kept⟩ :=
      runAll_total (fun _ _ measurement sampled => sampled.measure measurement) sampled measurements
    obtain ⟨⟨_, _, running⟩, accounted, _, _, sent⟩ := kept
    exact ⟨application, outputs, ran, fun _ member => proper_of_running running few member,
      running.sampleIndex, sent, accounted, fun nothing _ => if_pos nothing⟩

/-- With nine samples in a message the application writes behind its arrays as it starts. -/
theorem nine_not_sampledProperly :
    ¬ ∀ (samplesPerMessage : UInt8) (maxPackets : UInt64) (srcAddr : Octets 6) (found : Memory),
      SamplesProperly samplesPerMessage maxPackets srcAddr found := by
  intro claim
  have many := startAccesses_inArray_iff.mp (claim 9 0 Octets.zero fun _ => 0).1
  exact absurd many (by decide)

end GridGooseSV.Ns3
