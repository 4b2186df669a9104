import GridGooseSV.Goose.Stream

/-!
# Numbering and acceptance

The publisher numbers states from 1 and the frames of a state from 0; both numbers
skip 0 when they roll over. The receiver takes a frame for new unless the frame
before it has the same state number and at least its sequence number. The two agree
as long as no roll-over lets a frame look like an old one.
-/

namespace GridGooseSV

/-! ## Counters that skip zero -/

/-- The number that follows. -/
def nextNumber (number : UInt32) : UInt32 := if number + 1 = 0 then 1 else number + 1

/-- The number that 1 becomes when it is increased so often. -/
def wrapped (count : Nat) : UInt32 := UInt32.ofNat (1 + count % (2 ^ 32 - 1))

theorem toNat_wrapped (count : Nat) : (wrapped count).toNat = 1 + count % (2 ^ 32 - 1) := by
  unfold wrapped
  rw [UInt32.toNat_ofNat']
  omega

theorem wrapped_ne_zero (count : Nat) : wrapped count ≠ 0 := by
  intro zero
  have number := toNat_wrapped count
  rw [zero, UInt32.toNat_zero] at number
  omega

theorem nextNumber_wrapped (count : Nat) : nextNumber (wrapped count) = wrapped (count + 1) := by
  have number := toNat_wrapped count
  have next := toNat_wrapped (count + 1)
  have sum : (wrapped count + 1).toNat = ((wrapped count).toNat + 1) % 2 ^ 32 := by
    rw [UInt32.toNat_add]
    rfl
  unfold nextNumber
  split
  · rename_i zero
    rw [zero, UInt32.toNat_zero] at sum
    apply UInt32.toNat_inj.mp
    rw [next, UInt32.toNat_one]
    omega
  · rename_i positive
    have different : (wrapped count + 1).toNat ≠ 0 :=
      fun zero => positive (UInt32.toNat_inj.mp zero)
    apply UInt32.toNat_inj.mp
    rw [next]
    omega

theorem wrapped_inj {first second : Nat} :
    wrapped first = wrapped second ↔ first % (2 ^ 32 - 1) = second % (2 ^ 32 - 1) := by
  rw [← UInt32.toNat_inj, toNat_wrapped, toNat_wrapped]
  omega

/-- The sequence number after so many frames of one state. -/
def sequenceNumber : Nat → UInt32
  | 0 => 0
  | sent + 1 => wrapped sent

theorem nextNumber_sequenceNumber (sent : Nat) :
    nextNumber (sequenceNumber sent) = sequenceNumber (sent + 1) := by
  cases sent with
  | zero => rfl
  | succ sent => exact nextNumber_wrapped sent

/-- The sequence number grows until it rolls over. -/
theorem sequenceNumber_le_iff {sent : Nat} (small : sent + 1 ≤ 2 ^ 32) :
    sequenceNumber (sent + 1) ≤ sequenceNumber sent ↔ sent + 1 = 2 ^ 32 := by
  rw [UInt32.le_iff_toNat_le, sequenceNumber, toNat_wrapped]
  cases sent with
  | zero => simp [sequenceNumber]
  | succ sent =>
      rw [sequenceNumber, toNat_wrapped]
      omega

/-! ## Runs without roll-over -/

open GoosePublisher (Operation)

/-- No frame of a run looks old because a number has rolled over: at most `2 ^ 32`
frames are sent in one state, and between two frames the state does not change so
often that its number is the same again. `sent` counts the frames since the state
last changed, `changes` the changes since the last frame, once there is one. -/
def NoRollOver : (sent : Nat) → (changes : Option Nat) → List Operation → Prop
  | _, _, [] => True
  | sent, changes, .publish _ :: rest =>
    sent < 2 ^ 32 ∧ (∀ count ∈ changes, count % (2 ^ 32 - 1) = 0 → count = 0) ∧
      NoRollOver (sent + 1) (some 0) rest
  | _, changes, .increaseStNum _ :: rest => NoRollOver 0 (changes.map (· + 1)) rest
  | sent, changes, _ :: rest => NoRollOver sent changes rest

/-- What a subscriber has last heard of a publisher, after so many changes and so many
frames since the last change. -/
def LastHeard (total sent : Nat) (subscriber : GooseSubscriber) : Option Nat → Prop
  | none => sent = 0 ∧ subscriber.stNum = 0
  | some 0 => ∃ before, sent = before + 1 ∧ subscriber.stNum = wrapped total ∧
      subscriber.sqNum = sequenceNumber before
  | some (changes + 1) => sent = 0 ∧ changes + 1 ≤ total ∧
      subscriber.stNum = wrapped (total - (changes + 1))

theorem LastHeard.increase {total sent : Nat} {subscriber : GooseSubscriber}
    {changes : Option Nat} (heard : LastHeard total sent subscriber changes) :
    LastHeard (total + 1) 0 subscriber (changes.map (· + 1)) := by
  match changes with
  | none => exact ⟨rfl, heard.2⟩
  | some 0 =>
      obtain ⟨_, _, state, _⟩ := heard
      exact ⟨rfl, Nat.le_add_left 1 total, state⟩
  | some (changes + 1) =>
      obtain ⟨_, least, state⟩ := heard
      refine ⟨rfl, by omega, ?_⟩
      rw [state]
      congr 1
      omega

/-- When the next frame looks old. -/
theorem LastHeard.stale_iff {total sent : Nat} {subscriber : GooseSubscriber}
    {changes : Option Nat} (heard : LastHeard total sent subscriber changes)
    (small : sent ≤ 2 ^ 32) :
    (subscriber.stNum = wrapped total ∧ subscriber.sqNum ≥ sequenceNumber sent) ↔
      ¬ (sent < 2 ^ 32 ∧ ∀ count ∈ changes, count % (2 ^ 32 - 1) = 0 → count = 0) := by
  match changes with
  | none =>
      obtain ⟨rfl, state⟩ := heard
      rw [state]
      simp [(wrapped_ne_zero total).symm]
  | some 0 =>
      obtain ⟨before, rfl, state, sequence⟩ := heard
      rw [state, sequence, ge_iff_le, sequenceNumber_le_iff small]
      simp
      omega
  | some (changes + 1) =>
      obtain ⟨rfl, least, state⟩ := heard
      rw [state, wrapped_inj]
      simp [sequenceNumber]
      omega

/-! ## Runs of the receiver -/

/-- A property of every frame and the state that it finds. -/
def Throughout (property : List GooseSubscriber → Arrival → Prop) :
    List GooseSubscriber → List Arrival → Prop
  | _, [] => True
  | subscribers, arrival :: rest =>
    property subscribers arrival ∧ Throughout property (receive subscribers arrival) rest

/-- The frame is for the subscriber, and its data set is decoded. -/
def Proper (index : Nat) (subscribers : List GooseSubscriber) (arrival : Arrival) : Prop :=
  Matches subscribers index arrival ∧ DecodesAt subscribers index arrival

instance (index : Nat) (subscribers : List GooseSubscriber) (arrival : Arrival) :
    Decidable (Proper index subscribers arrival) :=
  inferInstanceAs (Decidable (_ ∧ _))

/-- The subscriber is valid once the frame is delivered. -/
def LeavesValid (index : Nat) (subscribers : List GooseSubscriber) (arrival : Arrival) : Prop :=
  IsValidAt (receive subscribers arrival) index

instance (index : Nat) (subscribers : List GooseSubscriber) (arrival : Arrival) :
    Decidable (LeavesValid index subscribers arrival) :=
  inferInstanceAs (Decidable (IsValidAt _ _))

instance (property : List GooseSubscriber → Arrival → Prop)
    [∀ subscribers arrival, Decidable (property subscribers arrival)] :
    (subscribers : List GooseSubscriber) → (arrivals : List Arrival) →
      Decidable (Throughout property subscribers arrivals)
  | _, [] => isTrue trivial
  | subscribers, arrival :: rest =>
    have := instDecidableThroughout property (receive subscribers arrival) rest
    inferInstanceAs (Decidable (property subscribers arrival ∧ Throughout property _ rest))

section Run

variable {parameters : CommParameters} {srcAddr : Octets 6} {index : Nat}

/-- What the next frame of a run does. -/
theorem leavesValid_step {subscribers : List GooseSubscriber} {subscriber : GooseSubscriber}
    (found : subscribers[index]? = some subscriber) {total sent : Nat} {changes : Option Nat}
    (heard : LastHeard total sent subscriber changes) (small : sent ≤ 2 ^ 32) {arrival : Arrival}
    (proper : Proper index subscribers arrival)
    (numbers : (framePdu arrival.memory).stNum = wrapped total ∧
      (framePdu arrival.memory).sqNum = sequenceNumber sent) :
    (LeavesValid index subscribers arrival ↔
      sent < 2 ^ 32 ∧ ∀ count ∈ changes, count % (2 ^ 32 - 1) = 0 → count = 0) ∧
    ∃ next, (receive subscribers arrival)[index]? = some next ∧
      LastHeard total (sent + 1) next (some 0) := by
  obtain ⟨next, reached, stNum, sqNum, valid⟩ := receive_matching found proper.1 numbers
  refine ⟨?_, next, reached, sent, rfl, stNum, sqNum⟩
  have leaves : LeavesValid index subscribers arrival ↔ next.stateValid = true := by
    unfold LeavesValid IsValidAt
    rw [reached]
    simp
  rw [leaves, valid, heard.stale_iff small]
  simp only [proper.2, true_and, not_not]

/-- A call that sends nothing changes the numbers only if it changes the state. -/
theorem perform_silent {publisher after : GoosePublisher} {operation : Operation}
    (silent : ∀ dataSet, operation ≠ .publish dataSet) (numbered : operation.LeavesNumbers)
    (performed : publisher.perform operation = some after) {total sent : Nat}
    (state : publisher.stNum = wrapped total) (sequence : publisher.sqNum = sequenceNumber sent)
    (changes : Option Nat) (rest : List Operation) :
    (after.stNum = wrapped (total + 1) ∧ after.sqNum = sequenceNumber 0 ∧
      NoRollOver sent changes (operation :: rest) = NoRollOver 0 (changes.map (· + 1)) rest) ∨
    (after.stNum = wrapped total ∧ after.sqNum = sequenceNumber sent ∧
      NoRollOver sent changes (operation :: rest) = NoRollOver sent changes rest) := by
  cases operation with
  | publish dataSet => exact absurd rfl (silent dataSet)
  | setStNum _ => exact numbered.elim
  | setSqNum _ => exact numbered.elim
  | reset => exact numbered.elim
  | increaseStNum _ =>
      obtain rfl := Option.some.inj performed
      refine .inl ⟨?_, rfl, rfl⟩
      rw [← nextNumber_wrapped, ← state]
      rfl
  | _ =>
      obtain rfl := Option.some.inj performed
      exact .inr ⟨state, sequence, rfl⟩

/-- A run is received as valid exactly if no frame looks old. -/
theorem leavesValid_iff_noRollOver {publisher : GoosePublisher} {operations : List Operation}
    {frames : List SentFrame} (sends : publisher.Sends operations frames)
    (prepared : publisher.Prepared parameters srcAddr)
    (numbered : ∀ operation ∈ operations, operation.LeavesNumbers)
    {total sent : Nat} (state : publisher.stNum = wrapped total)
    (sequence : publisher.sqNum = sequenceNumber sent) (small : sent ≤ 2 ^ 32)
    {subscribers : List GooseSubscriber} {subscriber : GooseSubscriber}
    (found : subscribers[index]? = some subscriber) {changes : Option Nat}
    (heard : LastHeard total sent subscriber changes) {arrivals : List Arrival}
    (brought : List.Forall₂ Arrival.Brings arrivals frames)
    (proper : Throughout (Proper index) subscribers arrivals) :
    Throughout (LeavesValid index) subscribers arrivals ↔ NoRollOver sent changes operations := by
  induction sends generalizing total sent subscribers subscriber changes arrivals with
  | nil =>
      cases brought
      exact Iff.rfl
  | publish published success octets _ ih =>
      cases brought with
      | cons brings others =>
          obtain ⟨stNum, sqNum⟩ := GoosePublisher.numbers_of_published prepared published success
            octets brings.1
          obtain ⟨here, next, reached, heardNext⟩ := leavesValid_step found heard small proper.1
            ⟨stNum.trans state, sqNum.trans sequence⟩
          obtain ⟨_, _, _, _, _, after, kept⟩ :=
            GoosePublisher.publish_eq prepared published success
          have following := (congrArg nextNumber sequence).trans (nextNumber_sequenceNumber sent)
          rw [Throughout, NoRollOver, here, ← and_assoc]
          apply and_congr_right
          rintro ⟨room, _⟩
          exact ih kept (fun operation member => numbered operation (List.mem_cons_of_mem _ member))
            (by rw [after]; exact state) (by rw [after]; exact following) room reached heardNext
            others proper.2
  | call silent performed _ ih =>
      have kept := prepared.perform performed
      have later := fun operation member => numbered operation (List.mem_cons_of_mem _ member)
      rcases perform_silent silent (numbered _ List.mem_cons_self) performed state sequence
        changes _ with ⟨stNum, sqNum, equation⟩ | ⟨stNum, sqNum, equation⟩
      · rw [equation]
        exact ih kept later stNum sqNum (Nat.zero_le _) found heard.increase brought proper
      · rw [equation]
        exact ih kept later stNum sqNum small found heard brought proper

end Run

/-- A run of a publisher whose frames reach a fresh subscriber in order leaves it valid
after every frame exactly if no number rolls over. -/
theorem stream_valid_iff {parameters : CommParameters} {srcAddr : Octets 6} {created : UInt64}
    {leftover : Memory} {operations : List Operation} {frames : List SentFrame}
    (sends : (GoosePublisher.create parameters srcAddr created leftover).Sends operations frames)
    (numbered : ∀ operation ∈ operations, operation.LeavesNumbers)
    {subscribers : List GooseSubscriber} {index : Nat} {subscriber : GooseSubscriber}
    (found : subscribers[index]? = some subscriber) (fresh : subscriber.stNum = 0)
    {arrivals : List Arrival} (brought : List.Forall₂ Arrival.Brings arrivals frames)
    (proper : Throughout (Proper index) subscribers arrivals) :
    Throughout (LeavesValid index) subscribers arrivals ↔ NoRollOver 0 none operations :=
  @leavesValid_iff_noRollOver _ _ _ _ _ _ sends
    (GoosePublisher.prepared_create parameters srcAddr created leftover) numbered 0 0
    rfl rfl (Nat.zero_le _) _ _ found none ⟨rfl, fresh⟩ _ brought proper

/-- A publisher as it is created. -/
def plainPublisher : GoosePublisher := .create .default Octets.zero 0 fun _ => 0

/-- A subscriber for the frames of a publisher without a reference. -/
def plainSubscriber : GooseSubscriber := .create ⟨[], zero_notMem_nil⟩ none

theorem stream_valid_of_twoStates :
    let operations : List Operation := [.publish [], .publish [], .increaseStNum 5, .publish []]
    ∃ frames, plainPublisher.Sends operations frames ∧
      (Throughout (LeavesValid 0) [plainSubscriber] (frames.map Arrival.ofFrame) ↔
        NoRollOver 0 none operations) := by
  have proper : (plainPublisher.sendAll
      [.publish [], .publish [], .increaseStNum 5, .publish []]).any (fun frames =>
        decide (Throughout (Proper 0) [plainSubscriber] (frames.map Arrival.ofFrame))) := by
    decide +kernel
  obtain ⟨frames, sent, proper⟩ := (Option.any_eq_true _ _).mp proper
  refine ⟨frames, GoosePublisher.sends_of_sendAll sent,
    stream_valid_iff (GoosePublisher.sends_of_sendAll sent) ?_ rfl rfl
    (brought_ofFrame frames) (of_decide_eq_true proper)⟩
  simp [Operation.LeavesNumbers]

/-- Calls of `GoosePublisher_increaseStNum` in a row, at a time that is already set. -/
theorem sends_increases {publisher : GoosePublisher} {stamp : Octets 8} {currentTime : UInt64}
    (kept : MmsValue.setUtcTimeMs stamp currentTime = stamp) {rest : List Operation}
    {frames : List SentFrame} (count total : Nat)
    (sends : ({ publisher with stNum := wrapped (total + count), sqNum := 0, timestamp := stamp } :
      GoosePublisher).Sends rest frames) :
    ({ publisher with stNum := wrapped total, sqNum := 0, timestamp := stamp } :
      GoosePublisher).Sends (List.replicate count (.increaseStNum currentTime) ++ rest) frames := by
  induction count generalizing total with
  | zero => exact sends
  | succ count ih =>
      have next := ih (total + 1) (by rw [Nat.add_right_comm]; exact sends)
      refine .call (by simp) ?_ next
      simp only [GoosePublisher.perform, GoosePublisher.increaseStNum, kept, ← nextNumber_wrapped]
      rfl

/-- Between two frames the state changes so often that its number is the same again:
the second frame is the first one. -/
theorem sends_again {publication : Publication}
    (published : plainPublisher.publish [] = some publication)
    (returned : publication.returned = 0) {packet : List UInt8}
    (sent : publication.sent = some packet) {count : Nat} (again : wrapped (1 + count) = 1) :
    plainPublisher.Sends (.publish [] :: .increaseStNum 0 ::
      (List.replicate count (.increaseStNum 0) ++ [.publish []]))
      [⟨1, 0, packet⟩, ⟨1, 0, packet⟩] := by
  have prepared := GoosePublisher.prepared_create .default Octets.zero 0 fun _ => 0
  obtain ⟨payload, buffer, created, fits, octets, after, kept⟩ :=
    GoosePublisher.publish_eq prepared published returned
  have stamp : MmsValue.setUtcTimeMs plainPublisher.timestamp 0 = plainPublisher.timestamp := by
    decide +kernel
  let last : GoosePublisher := { publication.publisher with
    stNum := wrapped (1 + count), sqNum := 0, timestamp := plainPublisher.timestamp }
  have prepared : last.Prepared .default Octets.zero := ⟨kept.1, kept.2, kept.3, kept.4⟩
  have created : last.createGoosePayload [] 1492 = some (some payload) := by
    rw [← created]
    simp only [last, after, again]
    rfl
  obtain ⟨publicationLast, publishedLast, returnedLast, sentLast⟩ :=
    GoosePublisher.publish_of_created prepared created fits
  have ends : last.Sends [.publish []] [⟨1, 0, packet⟩] := by
    have final := GoosePublisher.Sends.publish publishedLast returnedLast
      (sentLast.trans (octets.symm.trans sent)) (.nil _)
    rwa [show last.stNum = 1 from again] at final
  refine .publish published returned sent (.call (by simp) rfl ?_)
  have changed : publication.publisher.increaseStNum 0 = { publication.publisher with
      stNum := wrapped 1, sqNum := 0, timestamp := plainPublisher.timestamp } := by
    simp only [GoosePublisher.increaseStNum, after]
    rfl
  rw [changed]
  exact sends_increases stamp count 1 ends

/-- A frame is taken for old when its state has got the number of the last frame's again. -/
theorem stream_invalid_after_rollOver :
    ¬ ∀ (parameters : CommParameters) (srcAddr : Octets 6) (created : UInt64) (leftover : Memory)
      (operations : List Operation) (frames : List SentFrame),
      (GoosePublisher.create parameters srcAddr created leftover).Sends operations frames →
      (∀ operation ∈ operations, operation.LeavesNumbers) →
      ∀ (subscribers : List GooseSubscriber) (index : Nat) (subscriber : GooseSubscriber),
        subscribers[index]? = some subscriber → subscriber.stNum = 0 →
        ∀ arrivals, List.Forall₂ Arrival.Brings arrivals frames →
          Throughout (Proper index) subscribers arrivals →
          Throughout (LeavesValid index) subscribers arrivals := by
  intro claim
  have twice : (plainPublisher.publish []).any fun publication =>
      decide (publication.returned = 0) && publication.sent.any fun packet =>
        let arrivals := [Arrival.ofFrame ⟨1, 0, packet⟩, Arrival.ofFrame ⟨1, 0, packet⟩]
        decide (Throughout (Proper 0) [plainSubscriber] arrivals) &&
          decide ¬ Throughout (LeavesValid 0) [plainSubscriber] arrivals := by
    decide +kernel
  obtain ⟨publication, published, twice⟩ := (Option.any_eq_true _ _).mp twice
  obtain ⟨success, twice⟩ := Bool.and_eq_true_iff.mp twice
  obtain ⟨packet, sent, twice⟩ := (Option.any_eq_true _ _).mp twice
  obtain ⟨proper, invalid⟩ := Bool.and_eq_true_iff.mp twice
  obtain ⟨count, again⟩ : ∃ count, wrapped (1 + count) = 1 := ⟨2 ^ 32 - 2, by decide⟩
  refine of_decide_eq_true invalid (claim _ _ _ _ _ _
    (sends_again published (of_decide_eq_true success) sent again) ?_ _ 0 plainSubscriber rfl rfl _
    (brought_ofFrame [⟨1, 0, packet⟩, ⟨1, 0, packet⟩]) (of_decide_eq_true proper))
  intro operation member
  simp only [List.mem_cons, List.mem_append, List.mem_replicate, List.not_mem_nil, or_false]
    at member
  rcases member with rfl | rfl | ⟨_, rfl⟩ | rfl <;> trivial

end GridGooseSV
