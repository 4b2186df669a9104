import Mathlib.Data.List.Nodup

/-!
# Event queues

A discrete-event simulator runs the event with the least time, and of those the one that was
scheduled first. An event may be cancelled by the identifier it was scheduled under; an
identifier of an event that has been run, or that was cancelled before, cancels nothing.
-/

namespace GridGooseSV

/-- An event that was scheduled. -/
structure Scheduled (ε : Type) where
  uid : Nat
  time : Nat
  event : ε
  deriving DecidableEq, Repr

/-- The time of a simulator and the events that are pending. -/
structure EventQueue (ε : Type) where
  now : Nat
  nextUid : Nat
  pending : List (Scheduled ε)
  fresh : ∀ scheduled ∈ pending, scheduled.uid < nextUid
  distinct : (pending.map Scheduled.uid).Nodup
  ahead : ∀ scheduled ∈ pending, now ≤ scheduled.time

namespace EventQueue

variable {ε : Type}

/-- A simulator with nothing to do. -/
def empty (now nextUid : Nat) : EventQueue ε where
  now := now
  nextUid := nextUid
  pending := []
  fresh := by simp
  distinct := List.nodup_nil
  ahead := by simp

/-- Schedule an event; the simulator takes no delay that is negative. -/
def schedule (queue : EventQueue ε) (delay : Int) (event : ε) : Option (Nat × EventQueue ε) :=
  if 0 ≤ delay then
    some (queue.nextUid, {
      now := queue.now
      nextUid := queue.nextUid + 1
      pending := queue.pending ++ [⟨queue.nextUid, queue.now + delay.toNat, event⟩]
      fresh := by
        intro scheduled member
        rcases List.mem_append.mp member with earlier | last
        · exact Nat.lt_succ_of_lt (queue.fresh scheduled earlier)
        · obtain rfl := List.mem_singleton.mp last
          exact Nat.lt_succ_self _
      distinct := by
        rw [List.map_append, List.map_singleton, List.nodup_append]
        refine ⟨queue.distinct, List.nodup_singleton _, ?_⟩
        rintro uid member _ (_ | ⟨_, ⟨⟩⟩) rfl
        obtain ⟨scheduled, earlier, same⟩ := List.mem_map.mp member
        exact absurd same (Nat.ne_of_lt (queue.fresh scheduled earlier))
      ahead := by
        intro scheduled member
        rcases List.mem_append.mp member with earlier | last
        · exact queue.ahead scheduled earlier
        · obtain rfl := List.mem_singleton.mp last
          exact Nat.le_add_right _ _ })
  else none

/-- Drop the event with an identifier. -/
def discard (queue : EventQueue ε) (uid : Nat) : EventQueue ε where
  now := queue.now
  nextUid := queue.nextUid
  pending := queue.pending.filter fun scheduled => scheduled.uid ≠ uid
  fresh := fun scheduled member => queue.fresh scheduled (List.mem_of_mem_filter member)
  distinct := queue.distinct.sublist (List.filter_sublist.map _)
  ahead := fun scheduled member => queue.ahead scheduled (List.mem_of_mem_filter member)

/-- Cancel the event that an identifier stands for, if it stands for one. -/
def cancel (queue : EventQueue ε) : Option Nat → EventQueue ε
  | none => queue
  | some uid => queue.discard uid

/-- The first event with the least time. Events stand in the order they were scheduled in. -/
def earliest : List (Scheduled ε) → Option (Scheduled ε)
  | [] => none
  | scheduled :: rest =>
    match earliest rest with
    | none => some scheduled
    | some other => if other.time < scheduled.time then some other else some scheduled

theorem mem_of_earliest {pending : List (Scheduled ε)} {first : Scheduled ε}
    (found : earliest pending = some first) : first ∈ pending := by
  induction pending with
  | nil => contradiction
  | cons scheduled rest ih =>
      rw [earliest] at found
      split at found
      · obtain rfl := Option.some.inj found
        exact List.mem_cons_self
      · rename_i other later
        split at found
        · obtain rfl := Option.some.inj found
          exact List.mem_cons_of_mem _ (ih later)
        · obtain rfl := Option.some.inj found
          exact List.mem_cons_self

theorem earliest_eq_none {pending : List (Scheduled ε)} :
    earliest pending = none ↔ pending = [] := by
  cases pending with
  | nil => simp [earliest]
  | cons scheduled rest =>
      rw [earliest]
      split
      · simp
      · split <;> simp

/-- No pending event comes before the earliest. -/
theorem time_earliest_le {pending : List (Scheduled ε)} {first : Scheduled ε}
    (found : earliest pending = some first) :
    ∀ scheduled ∈ pending, first.time ≤ scheduled.time := by
  induction pending generalizing first with
  | nil => contradiction
  | cons scheduled rest ih =>
      rw [earliest] at found
      split at found
      · rename_i alone
        obtain rfl := Option.some.inj found
        obtain rfl := earliest_eq_none.mp alone
        simp
      · rename_i other later
        have least := ih later
        rw [List.forall_mem_cons]
        split at found
        · obtain rfl := Option.some.inj found
          exact ⟨by omega, least⟩
        · obtain rfl := Option.some.inj found
          refine ⟨Nat.le_refl _, fun each member => ?_⟩
          have later := least each member
          omega

/-- The event to be run next, and the simulator at its time without it. -/
def next (queue : EventQueue ε) : Option (Scheduled ε × EventQueue ε) :=
  match found : earliest queue.pending with
  | none => none
  | some first =>
    let rest := queue.discard first.uid
    some (first, {
      now := first.time
      nextUid := queue.nextUid
      pending := rest.pending
      fresh := rest.fresh
      distinct := rest.distinct
      ahead := fun scheduled member =>
        time_earliest_le found scheduled (List.mem_of_mem_filter member) })

/-! ## What an operation leaves -/

section Operations

variable {queue after : EventQueue ε}

/-- What scheduling does. -/
theorem schedule_eq {delay : Int} {event : ε} {uid : Nat}
    (scheduled : queue.schedule delay event = some (uid, after)) :
    0 ≤ delay ∧ uid = queue.nextUid ∧ after.now = queue.now ∧ after.nextUid = queue.nextUid + 1 ∧
      after.pending = queue.pending ++ [⟨queue.nextUid, queue.now + delay.toNat, event⟩] := by
  unfold schedule at scheduled
  split at scheduled
  · obtain ⟨rfl, rfl⟩ := Prod.mk.inj (Option.some.inj scheduled)
    exact ⟨‹0 ≤ delay›, rfl, rfl, rfl, rfl⟩
  · contradiction

theorem schedule_isSome {delay : Int} (positive : 0 ≤ delay) (event : ε) :
    ∃ uid after, queue.schedule delay event = some (uid, after) :=
  ⟨_, _, if_pos positive⟩

@[simp] theorem now_cancel (queue : EventQueue ε) (id : Option Nat) :
    (queue.cancel id).now = queue.now := by
  cases id <;> rfl

@[simp] theorem nextUid_cancel (queue : EventQueue ε) (id : Option Nat) :
    (queue.cancel id).nextUid = queue.nextUid := by
  cases id <;> rfl

theorem mem_cancel {id : Option Nat} {scheduled : Scheduled ε} :
    scheduled ∈ (queue.cancel id).pending ↔
      scheduled ∈ queue.pending ∧ id ≠ some scheduled.uid := by
  cases id with
  | none => simp [cancel]
  | some uid => simp [cancel, discard, @eq_comm Nat uid]

/-- What running the next event leaves. -/
theorem next_eq {first : Scheduled ε} (found : queue.next = some (first, after)) :
    first ∈ queue.pending ∧ after.now = first.time ∧ after.nextUid = queue.nextUid ∧
      ∀ scheduled, scheduled ∈ after.pending ↔
        scheduled ∈ queue.pending ∧ scheduled.uid ≠ first.uid := by
  unfold next at found
  split at found
  · contradiction
  · rename_i earlier
    obtain ⟨rfl, rfl⟩ := Prod.mk.inj (Option.some.inj found)
    refine ⟨mem_of_earliest earlier, rfl, rfl, fun scheduled => ?_⟩
    simp [discard]

theorem next_eq_none : queue.next = none ↔ queue.pending = [] := by
  rw [← earliest_eq_none]
  unfold next
  split
  · rename_i nothing
    exact ⟨fun _ => nothing, fun _ => rfl⟩
  · rename_i found
    simp [found]

/-- An identifier stands for one event. -/
theorem eq_of_uid {first second : Scheduled ε} (member : first ∈ queue.pending)
    (other : second ∈ queue.pending) (same : first.uid = second.uid) : first = second :=
  List.inj_on_of_nodup_map queue.distinct member other same

end Operations

/-- The pending events that an identifier stands for. -/
def held (queue : EventQueue ε) (id : Option Nat) : List (Scheduled ε) :=
  queue.pending.filter fun scheduled => id = some scheduled.uid

theorem mem_held {queue : EventQueue ε} {id : Option Nat} {scheduled : Scheduled ε} :
    scheduled ∈ queue.held id ↔ scheduled ∈ queue.pending ∧ id = some scheduled.uid := by
  simp [held]

theorem length_held_le (queue : EventQueue ε) (id : Option Nat) : (queue.held id).length ≤ 1 := by
  have distinct : (queue.held id).Nodup :=
    (List.Nodup.of_map _ queue.distinct).sublist List.filter_sublist
  match found : queue.held id, distinct with
  | [], _ => exact Nat.zero_le 1
  | [_], _ => exact Nat.le_refl 1
  | first :: second :: _, distinct =>
      obtain ⟨firstIn, firstId⟩ := mem_held.mp (found ▸ List.mem_cons_self)
      obtain ⟨secondIn, secondId⟩ := mem_held.mp
        (found ▸ List.mem_cons_of_mem _ List.mem_cons_self)
      have uids := Option.some.inj (firstId.symm.trans secondId)
      have same := eq_of_uid firstIn secondIn uids
      exact absurd (same ▸ List.mem_cons_self) (List.nodup_cons.mp distinct).1

end EventQueue

end GridGooseSV
