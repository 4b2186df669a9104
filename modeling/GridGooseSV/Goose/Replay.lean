import GridGooseSV.Goose.Sequence
import GridGooseSV.Goose.Validity

/-!
# Frames that are received again

A network may lose, delay, reorder and duplicate the frames of a publisher. The
receiver remembers the numbers of the last frame only: a copy of a processed frame
is refused if the frame before it has the same state number and at least its
sequence number, and taken for new otherwise.
-/

namespace GridGooseSV

open GoosePublisher (Operation)

/-- A property of every frame that is delivered, of the frames that are processed
before it, the last one first, and of the state that it finds. -/
def Along (property : List SentFrame → List GooseSubscriber → SentFrame → Arrival → Prop) :
    List SentFrame → List GooseSubscriber → List (SentFrame × Arrival) → Prop
  | _, _, [] => True
  | processed, subscribers, (frame, arrival) :: rest =>
    property processed subscribers frame arrival ∧
      Along property (frame :: processed) (receive subscribers arrival) rest

instance (property : List SentFrame → List GooseSubscriber → SentFrame → Arrival → Prop)
    [∀ processed subscribers frame arrival,
      Decidable (property processed subscribers frame arrival)] :
    (processed : List SentFrame) → (subscribers : List GooseSubscriber) →
      (deliveries : List (SentFrame × Arrival)) →
      Decidable (Along property processed subscribers deliveries)
  | _, _, [] => isTrue trivial
  | processed, subscribers, (frame, arrival) :: rest =>
    have := instDecidableAlong property (frame :: processed) (receive subscribers arrival) rest
    inferInstanceAs (Decidable (property processed subscribers frame arrival ∧
      Along property _ _ rest))

/-- The frame is for the subscriber. -/
def IsFor (index : Nat) (_ : List SentFrame) (subscribers : List GooseSubscriber)
    (_ : SentFrame) (arrival : Arrival) : Prop :=
  Matches subscribers index arrival

instance (index : Nat) (processed : List SentFrame) (subscribers : List GooseSubscriber)
    (frame : SentFrame) (arrival : Arrival) :
    Decidable (IsFor index processed subscribers frame arrival) :=
  inferInstanceAs (Decidable (Matches subscribers index arrival))

/-- A further copy of a processed frame leaves the subscriber invalid. -/
def RefusesCopies (index : Nat) (processed : List SentFrame)
    (subscribers : List GooseSubscriber) (frame : SentFrame) (arrival : Arrival) : Prop :=
  frame ∈ processed → ¬ LeavesValid index subscribers arrival

instance (index : Nat) (processed : List SentFrame) (subscribers : List GooseSubscriber)
    (frame : SentFrame) (arrival : Arrival) :
    Decidable (RefusesCopies index processed subscribers frame arrival) :=
  inferInstanceAs (Decidable (_ → ¬ _))

/-- The frame that was processed last has the same state number and at least the
sequence number of a frame. -/
def Follows (processed : List SentFrame) (frame : SentFrame) : Prop :=
  ∃ previous ∈ processed.head?, previous.stNum = frame.stNum ∧ frame.sqNum ≤ previous.sqNum

/-- The data set of a frame passes for the one the subscriber keeps, if it keeps one. -/
def Admits (subscribers : List GooseSubscriber) (index : Nat) (arrival : Arrival) : Prop :=
  let pdu := framePdu arrival.memory
  ∀ subscriber ∈ subscribers[index]?, ∀ components ∈ subscriber.keptDataSet pdu.confRev,
    PassAt arrival.memory (pdu.dataSetBufferAddress.getD 0) pdu.dataSetBufferLength components

theorem decodesAt_iff_admits {subscribers : List GooseSubscriber} {index : Nat}
    {arrival : Arrival} :
    DecodesAt subscribers index arrival ↔ Admits subscribers index arrival := by
  unfold DecodesAt Admits GooseSubscriber.decode
  apply forall₂_congr
  intro subscriber _
  cases subscriber.keptDataSet (framePdu arrival.memory).confRev with
  | none => simp
  | some components => simpa [PassAt] using parseAllData_noError_iff

/-- A further copy of a processed frame comes right after a frame of its state that is
not older, or with a data set that does not pass. -/
def CopiesFollow (index : Nat) (processed : List SentFrame)
    (subscribers : List GooseSubscriber) (frame : SentFrame) (arrival : Arrival) : Prop :=
  frame ∈ processed → Follows processed frame ∨ ¬ Admits subscribers index arrival

/-- What the subscriber has last heard is the frame that was processed last. -/
def HasHeard (subscriber : GooseSubscriber) (processed : List SentFrame) : Prop :=
  ∀ previous ∈ processed.head?, subscriber.stNum = previous.stNum ∧
    subscriber.sqNum = previous.sqNum

/-- What one delivery does. -/
theorem refusesCopies_step {index : Nat} {processed : List SentFrame}
    {subscribers : List GooseSubscriber} {subscriber : GooseSubscriber}
    (found : subscribers[index]? = some subscriber) (heard : HasHeard subscriber processed)
    {frame : SentFrame} {arrival : Arrival} (matching : Matches subscribers index arrival)
    (numbers : (framePdu arrival.memory).stNum = frame.stNum ∧
      (framePdu arrival.memory).sqNum = frame.sqNum) :
    (RefusesCopies index processed subscribers frame arrival ↔
      CopiesFollow index processed subscribers frame arrival) ∧
    ∃ next, (receive subscribers arrival)[index]? = some next ∧
      HasHeard next (frame :: processed) := by
  obtain ⟨next, reached, stNum, sqNum, valid⟩ := receive_matching found matching numbers
  refine ⟨?_, next, reached, ?_⟩
  · have leaves : LeavesValid index subscribers arrival ↔ next.stateValid = true := by
      unfold LeavesValid IsValidAt
      rw [reached]
      simp
    unfold RefusesCopies CopiesFollow
    apply imp_congr_right
    intro copy
    obtain ⟨previous, rest, rfl⟩ := List.exists_cons_of_ne_nil (List.ne_nil_of_mem copy)
    obtain ⟨state, sequence⟩ := heard previous rfl
    have follows : Follows (previous :: rest) frame ↔
        subscriber.stNum = frame.stNum ∧ subscriber.sqNum ≥ frame.sqNum := by
      rw [state, sequence]
      simp [Follows]
    rw [leaves, valid, follows, decodesAt_iff_admits, not_and_or, not_not, or_comm]
  · rintro previous ⟨⟩
    exact ⟨stNum, sqNum⟩

theorem refusesCopies_iff {index : Nat}
    {deliveries : List (SentFrame × Arrival)}
    (numbers : ∀ delivery ∈ deliveries,
      (framePdu delivery.2.memory).stNum = delivery.1.stNum ∧
        (framePdu delivery.2.memory).sqNum = delivery.1.sqNum)
    {processed : List SentFrame} {subscribers : List GooseSubscriber}
    {subscriber : GooseSubscriber} (found : subscribers[index]? = some subscriber)
    (heard : HasHeard subscriber processed)
    (matching : Along (IsFor index) processed subscribers deliveries) :
    Along (RefusesCopies index) processed subscribers deliveries ↔
      Along (CopiesFollow index) processed subscribers deliveries := by
  induction deliveries generalizing processed subscribers subscriber with
  | nil => exact Iff.rfl
  | cons delivery rest ih =>
      obtain ⟨first, others⟩ := List.forall_mem_cons.mp numbers
      obtain ⟨step, next, reached, heardNext⟩ := refusesCopies_step found heard matching.1 first
      exact and_congr step (ih others reached heardNext matching.2)

/-- However the frames of a publisher are lost, delayed, reordered and duplicated: no
copy of a processed frame is taken for new exactly if every copy whose data set is
decoded comes right after a frame of its state that is not older. -/
theorem copies_refused_iff {parameters : CommParameters} {srcAddr : Octets 6} {created : UInt64}
    {leftover : Memory} {operations : List Operation} {frames : List SentFrame}
    (sends : (GoosePublisher.create parameters srcAddr created leftover).Sends operations frames)
    {subscribers : List GooseSubscriber} {index : Nat} {subscriber : GooseSubscriber}
    (found : subscribers[index]? = some subscriber) {deliveries : List (SentFrame × Arrival)}
    (brought : ∀ delivery ∈ deliveries, delivery.1 ∈ frames ∧ delivery.2.Brings delivery.1)
    (matching : Along (IsFor index) [] subscribers deliveries) :
    Along (RefusesCopies index) [] subscribers deliveries ↔
      Along (CopiesFollow index) [] subscribers deliveries := by
  refine refusesCopies_iff ?_ found (by simp [HasHeard]) matching
  intro delivery member
  obtain ⟨sent, held, _⟩ := brought delivery member
  exact sends.numbers (GoosePublisher.prepared_create parameters srcAddr created leftover) sent held

/-- A frame that arrives in a buffer of zeros. -/
def deliveryOf (frame : SentFrame) : SentFrame × Arrival := (frame, .ofFrame frame)

theorem delivered_ofFrames {frames received : List SentFrame} (sent : received ⊆ frames) :
    ∀ delivery ∈ received.map deliveryOf, delivery.1 ∈ frames ∧ delivery.2.Brings delivery.1 := by
  rintro _ member
  obtain ⟨frame, present, rfl⟩ := List.mem_map.mp member
  exact ⟨sent present, Arrival.brings_ofFrame frame⟩

/-- Two frames with a change of state between them. -/
def twoStates : List Operation := [.publish [], .increaseStNum 5, .publish []]

theorem copies_refused_of_repeated :
    ∃ first second, plainPublisher.Sends twoStates [first, second] ∧
      (Along (RefusesCopies 0) [] [plainSubscriber] ([first, first, second].map deliveryOf) ↔
        Along (CopiesFollow 0) [] [plainSubscriber] ([first, first, second].map deliveryOf)) := by
  have run : (plainPublisher.sendAll twoStates).any fun frames =>
      decide (frames.length = 2) &&
        decide (Along (IsFor 0) [] [plainSubscriber]
          ((frames.take 1 ++ frames).map deliveryOf)) := by
    decide +kernel
  obtain ⟨frames, sent, run⟩ := (Option.any_eq_true _ _).mp run
  obtain ⟨both, matching⟩ := Bool.and_eq_true_iff.mp run
  obtain ⟨first, second, rfl⟩ := List.length_eq_two.mp (of_decide_eq_true both)
  have sends := GoosePublisher.sends_of_sendAll sent
  exact ⟨first, second, sends, copies_refused_iff sends rfl
    (delivered_ofFrames (by simp)) (of_decide_eq_true matching)⟩

/-- A copy that arrives after the frame of a newer state is taken for new. -/
theorem copy_accepted_after_change :
    ¬ ∀ (parameters : CommParameters) (srcAddr : Octets 6) (created : UInt64) (leftover : Memory)
      (operations : List Operation) (frames : List SentFrame),
      (GoosePublisher.create parameters srcAddr created leftover).Sends operations frames →
      NoRollOver 0 none operations →
      ∀ (subscribers : List GooseSubscriber) (index : Nat) (subscriber : GooseSubscriber),
        subscribers[index]? = some subscriber →
        ∀ deliveries : List (SentFrame × Arrival),
          (∀ delivery ∈ deliveries, delivery.1 ∈ frames ∧ delivery.2.Brings delivery.1) →
          Along (IsFor index) [] subscribers deliveries →
          Along (RefusesCopies index) [] subscribers deliveries := by
  intro claim
  have run : (plainPublisher.sendAll twoStates).any fun frames =>
      let deliveries := (frames ++ frames.take 1).map deliveryOf
      decide (Along (IsFor 0) [] [plainSubscriber] deliveries) &&
        decide ¬ Along (RefusesCopies 0) [] [plainSubscriber] deliveries := by
    decide +kernel
  obtain ⟨frames, sent, run⟩ := (Option.any_eq_true _ _).mp run
  obtain ⟨matching, accepted⟩ := Bool.and_eq_true_iff.mp run
  exact of_decide_eq_true accepted (claim _ _ _ _ _ _ (GoosePublisher.sends_of_sendAll sent)
    (by simp [twoStates, NoRollOver]) _ 0 plainSubscriber rfl _
    (delivered_ofFrames (List.append_subset.mpr
      ⟨List.Subset.refl _, List.take_subset _ _⟩)) (of_decide_eq_true matching))

end GridGooseSV
