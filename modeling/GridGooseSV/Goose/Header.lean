import GridGooseSV.Goose.Frame

/-!
# The header of a message

What a delivered frame leaves of the header getters' former answers. The numbers
and flags of a frame always replace the former ones, absent elements as zero. A
string is replaced only by an element that fits in its field, and a frame without
a timestamp replaces the seconds and keeps the fraction.
-/

namespace GridGooseSV

/-- Two states of a subscriber that was set up in one way. Frames write the
reference and the addresses of an observer. -/
structure GooseSubscriber.SameConfiguration (first second : GooseSubscriber) : Prop where
  isObserver : first.isObserver = second.isObserver
  listener : first.listener = second.listener
  goCBRefLen : first.goCBRefLen = second.goCBRefLen
  dstMacSet : first.dstMacSet = second.dstMacSet
  goCBRef : ¬ second.isObserver → first.goCBRef = second.goCBRef
  appId : ¬ second.isObserver → first.appId = second.appId
  dstMac : ¬ second.isObserver → first.dstMac = second.dstMac

namespace GooseSubscriber

theorem selects_congr {first second : GooseSubscriber} (same : first.SameConfiguration second)
    (octets : List UInt8) : first.selects octets = second.selects octets := by
  unfold selects
  rw [same.isObserver, same.goCBRefLen]
  cases observer : second.isObserver with
  | true => rfl
  | false =>
      unfold refersTo
      rw [same.goCBRef (by simp [observer])]

/-- A subscriber with other strings and another timestamp from earlier frames. -/
def withPast (self : GooseSubscriber) (text : StringField) (timestamp : Octets 8) :
    GooseSubscriber :=
  { self with
    datSet := text
    goId := text
    goCBRef := if self.isObserver then text else self.goCBRef
    timestamp := timestamp }

theorem sameConfiguration_withPast (self : GooseSubscriber) (text : StringField)
    (timestamp : Octets 8) : (self.withPast text timestamp).SameConfiguration self where
  isObserver := rfl
  listener := rfl
  goCBRefLen := rfl
  dstMacSet := rfl
  goCBRef plain := if_neg plain
  appId _ := rfl
  dstMac _ := rfl

end GooseSubscriber

/-- Whom a reference selects does not depend on the state of one subscriber. -/
theorem selectAlike_of_sameConfiguration {first second : GooseSubscriber}
    (same : first.SameConfiguration second) (before after : List GooseSubscriber) :
    SelectAlike (before ++ first :: after) (before ++ second :: after) := by
  intro octets
  simp [GooseSubscriber.selects_congr same]

theorem deliveredTo_congr {memory : Memory} {numbytes : Nat} {first second : List GooseSubscriber}
    (alike : SelectAlike first second) :
    deliveredTo memory numbytes first = deliveredTo memory numbytes second := by
  rw [deliveredTo, deliveredTo, target_congr alike]

/-- The subscriber at an index once a frame of `numbytes` octets is received. -/
def afterFrame (subscribers : List GooseSubscriber) (memory : Memory) (numbytes : Nat)
    (now : UInt64) (index : Nat) : Option GooseSubscriber :=
  (parseGooseMessage subscribers memory numbytes now).value.subscriberList[index]?

/-- Only a frame that is a GOOSE frame and whose elements are all read is delivered. -/
theorem read_of_deliveredTo {memory : Memory} {numbytes : Nat}
    {subscribers : List GooseSubscriber} {index : Nat}
    (delivered : deliveredTo memory numbytes subscribers = some index) :
    IsGooseFrame memory numbytes ∧ (frameElements memory).complete ∧
      matchAll memory subscribers (frameElements memory).elements none = (some index, true) := by
  unfold deliveredTo at delivered
  split at delivered
  · rename_i goose
    unfold target at delivered
    simp only at delivered
    split at delivered
    · rename_i read
      obtain ⟨all, complete⟩ := Bool.and_eq_true_iff.mp read
      exact ⟨goose, complete, Prod.ext delivered all⟩
    · contradiction
  · contradiction

/-- What the header getters answer once the given strings and fields are delivered. -/
def GooseSubscriber.headerAfter (self : GooseSubscriber) (handed : PduTag → Option StringField)
    (memory : Memory) (pdu : GoosePdu) : HeaderView where
  dataSet := ((handed .datSet).getD self.datSet).get
  goId := ((handed .goId).getD self.goId).get
  goCbRef :=
    (if self.isObserver then (handed .gocbRef).getD self.goCBRef else self.goCBRef).get
  timestamp := MmsValue.getUtcTimeInMs (self.timestampAfter memory pdu)
  stNum := pdu.stNum
  sqNum := pdu.sqNum
  confRev := pdu.confRev
  timeAllowedToLive := pdu.timeAllowedToLive
  isTest := pdu.simulation
  needsCommission := pdu.ndsCom

section Header

variable {memory : Memory} {numbytes : Nat} {subscribers : List GooseSubscriber} {index : Nat}

theorem headerView_afterFrame {subscriber : GooseSubscriber}
    (found : subscribers[index]? = some subscriber)
    (delivered : deliveredTo memory numbytes subscribers = some index) (now : UInt64) :
    (afterFrame subscribers memory numbytes now index).map GooseSubscriber.headerView =
      some (subscriber.headerAfter
        (fun tag => handed memory subscribers tag index (frameElements memory).elements none)
        memory (framePdu memory)) := by
  have goose := (read_of_deliveredTo delivered).1
  have received := (received_parseGooseMessage subscribers memory numbytes now).state index
  rw [afterFrame, received, found, Option.map_some, Option.map_some, if_pos delivered,
    GooseSubscriber.value_deliver, parsed, if_pos goose]
  -- The addresses that an observer takes over are no part of the header.
  unfold readBy GooseSubscriber.withAddresses GooseSubscriber.headerAfter
  by_cases here : interested memory subscribers = some index <;>
    by_cases observer : subscriber.isObserver <;>
      simp only [here, observer, ↓reduceIte, Bool.false_eq_true, GooseSubscriber.withStrings] <;>
      rfl

/-- A timestamp is replaced as a whole if there is one. -/
theorem timestampAfter_of_isSome {pdu : GoosePdu} (present : pdu.timestampBufPos.isSome)
    (first second : GooseSubscriber) :
    first.timestampAfter memory pdu = second.timestampAfter memory pdu := by
  obtain ⟨address, present⟩ := Option.isSome_iff_exists.mp present
  unfold GooseSubscriber.timestampAfter MmsValue.setUtcTimeByBuffer
  simp only [present]
  have length : ((memory.octets address 8).take 8).length = 8 := by simp
  exact Subtype.ext ((Octets.overwrite_all _ length).trans (Octets.overwrite_all _ length).symm)

/-- The header does not depend on the past exactly if every string is handed over
and there is a timestamp. -/
theorem headerAfter_independent_iff (memory : Memory) (self : GooseSubscriber)
    (handed : PduTag → Option StringField) (pdu : GoosePdu) :
    (∀ first second : GooseSubscriber, first.SameConfiguration self →
        second.SameConfiguration self →
        first.headerAfter handed memory pdu = second.headerAfter handed memory pdu) ↔
      (handed .datSet).isSome ∧ (handed .goId).isSome ∧ pdu.timestampBufPos.isSome ∧
        (self.isObserver → (handed .gocbRef).isSome) := by
  constructor
  · intro independent
    -- Two pasts that differ in every string and in the fraction of the timestamp.
    have same := independent (self.withPast ⟨[], by decide⟩ Octets.zero)
      (self.withPast ⟨[0x41], by decide⟩ ⟨[0, 0, 0, 0, 0xff, 0xff, 0xff, 0], rfl⟩)
      (self.sameConfiguration_withPast _ _) (self.sameConfiguration_withPast _ _)
    have text : (StringField.get ⟨[], by decide⟩) ≠ StringField.get ⟨[0x41], by decide⟩ := by decide
    refine ⟨?_, ?_, ?_, fun observer => ?_⟩
    · have datSet := congrArg HeaderView.dataSet same
      cases present : handed .datSet with
      | none =>
          simp [GooseSubscriber.headerAfter, GooseSubscriber.withPast, present, text] at datSet
      | some field => rfl
    · have goId := congrArg HeaderView.goId same
      cases present : handed .goId with
      | none => simp [GooseSubscriber.headerAfter, GooseSubscriber.withPast, present, text] at goId
      | some field => rfl
    · have timestamp := congrArg HeaderView.timestamp same
      cases present : pdu.timestampBufPos with
      | none =>
          simp only [GooseSubscriber.headerAfter, GooseSubscriber.withPast,
            GooseSubscriber.timestampAfter, present] at timestamp
          revert timestamp
          decide
      | some address => rfl
    · have goCbRef := congrArg HeaderView.goCbRef same
      cases present : handed .gocbRef with
      | none =>
          simp [GooseSubscriber.headerAfter, GooseSubscriber.withPast, present, text, observer]
            at goCbRef
      | some field => rfl
  · rintro ⟨datSet, goId, timestamp, gocbRef⟩ first second sameFirst sameSecond
    obtain ⟨datSet, givenDatSet⟩ := Option.isSome_iff_exists.mp datSet
    obtain ⟨goId, givenGoId⟩ := Option.isSome_iff_exists.mp goId
    unfold GooseSubscriber.headerAfter
    rw [timestampAfter_of_isSome timestamp first second, givenDatSet, givenGoId,
      sameFirst.isObserver, sameSecond.isObserver]
    by_cases observer : self.isObserver
    · obtain ⟨reference, given⟩ := Option.isSome_iff_exists.mp (gocbRef observer)
      simp [given, observer]
    · simp [observer, sameFirst.goCBRef observer, sameSecond.goCBRef observer]

end Header

end GridGooseSV
