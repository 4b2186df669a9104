import GridGooseSV.Foundation.Memory

/-!
# Ledgers of stored objects

A place in which a program stores one object at a time: an object that it was supplied with at the
start or one that was created since. A ledger tells from the events of the program which object the
place holds, and which objects have been deleted.
-/

namespace GridGooseSV

/-- Where an object comes from. -/
inductive Origin
  | supplied
  /-- the object with the given number among those that were created -/
  | created (number : Nat)
  deriving DecidableEq, Repr

/-- The object that is held, the number of objects that were created, and the objects that were
deleted, in order. -/
structure Ledger where
  held : Option Origin
  created : Nat := 0
  deleted : List Origin := []
  deriving DecidableEq, Repr

/-- The event stores an object or deletes the one that is stored. -/
def Access.handles : Access → Bool
  | .store | .delete => true
  | _ => false

theorem Access.DecodesBelow.handles_eq_false {limit : Nat} {event : Access}
    (decodes : event.DecodesBelow limit) : event.handles = false := by
  cases event with
  | store => exact decodes.elim
  | delete => exact decodes.elim
  | _ => rfl

namespace Traced

variable {α β : Type}

/-- The events of a computation that handle an object. -/
def handling (computation : Traced Access α) : List Access :=
  computation.trace.filter Access.handles

@[simp] theorem handling_pure (value : α) : (pure value : Traced Access α).handling = [] := rfl

@[simp] theorem handling_bind (first : Traced Access α) (next : α → Traced Access β) :
    (first >>= next).handling = first.handling ++ (next first.value).handling :=
  List.filter_append ..

/-- A decoder handles nothing. -/
theorem handling_of_decodes {limit : Nat} {computation : Traced Access α}
    (decodes : computation.Always (Access.DecodesBelow limit)) : computation.handling = [] := by
  rw [handling, List.filter_eq_nil_iff]
  intro event member
  simp [(decodes event member).handles_eq_false]

end Traced

namespace Ledger

/-- What an event changes. -/
def record (ledger : Ledger) : Access → Ledger
  | .store =>
    { ledger with held := some (.created ledger.created), created := ledger.created + 1 }
  | .delete =>
    { ledger with held := none, deleted := ledger.deleted ++ ledger.held.toList }
  | _ => ledger

/-- What events change, one after another. -/
def recordAll (ledger : Ledger) (events : List Access) : Ledger := events.foldl record ledger

theorem recordAll_append (ledger : Ledger) (first second : List Access) :
    ledger.recordAll (first ++ second) = (ledger.recordAll first).recordAll second :=
  List.foldl_append ..

/-- Only the events that handle an object matter. -/
theorem recordAll_handling {α : Type} (ledger : Ledger) (computation : Traced Access α) :
    ledger.recordAll computation.handling = ledger.recordAll computation.trace := by
  unfold Traced.handling
  induction computation.trace generalizing ledger with
  | nil => rfl
  | cons event rest ih =>
      cases event with
      | store => exact ih _
      | delete => exact ih _
      | _ => exact ih ledger

/-- A created object has been deleted once if it is not held, and else never; the object that was
supplied has been deleted if it is not held. -/
structure Consistent (supplied : Bool) (ledger : Ledger) : Prop where
  created_held : ∀ number, ledger.held = some (.created number) → number < ledger.created
  created_deleted : ∀ number, ledger.deleted.count (.created number) =
    if number < ledger.created ∧ ledger.held ≠ some (.created number) then 1 else 0
  supplied_deleted : .supplied ∈ ledger.deleted ↔ supplied ∧ ledger.held ≠ some .supplied
  supplied_held : ledger.held = some .supplied → supplied

variable {supplied : Bool} {ledger : Ledger}

/-- A ledger at the start. -/
theorem consistent_start (supplied : Bool) :
    Consistent supplied { held := if supplied then some .supplied else none } where
  created_held number held := by
    cases supplied <;> simp at held
  created_deleted number := by simp
  supplied_deleted := by cases supplied <;> simp
  supplied_held held := by
    cases supplied <;> simp at held
    rfl

theorem Consistent.delete (consistent : Consistent supplied ledger) :
    Consistent supplied (ledger.record .delete) := by
  obtain ⟨createdHeld, createdDeleted, suppliedDeleted, suppliedHeld⟩ := consistent
  rcases ledger with ⟨held, created, deleted⟩
  refine ⟨fun number held => by simp [record] at held, fun number => ?_, ?_, fun held => ?_⟩
  · have before := createdDeleted number
    simp only [record, List.count_append]
    cases held with
    | none => simpa using before
    | some origin =>
        cases origin with
        | supplied => simpa using before
        | created other =>
            have inside := createdHeld other rfl
            by_cases same : other = number
            · subst same
              simpa [inside] using before
            · simpa [same] using before
  · simp only [record, List.mem_append]
    rw [suppliedDeleted]
    cases held with
    | none => simp
    | some origin =>
        cases origin with
        | supplied => simp [suppliedHeld rfl]
        | created other => simp
  · simp [record] at held

/-- An object is created where none is held. -/
theorem Consistent.store (consistent : Consistent supplied ledger) (free : ledger.held = none) :
    Consistent supplied (ledger.record .store) := by
  obtain ⟨createdHeld, createdDeleted, suppliedDeleted, suppliedHeld⟩ := consistent
  rcases ledger with ⟨held, created, deleted⟩
  obtain rfl : held = none := free
  refine ⟨fun number held => ?_, fun number => ?_, ?_, fun held => ?_⟩
  · obtain rfl : created = number := by simpa [record] using held
    exact Nat.lt_succ_self _
  · have before := createdDeleted number
    simp only [record] at before ⊢
    rw [before]
    by_cases same : created = number
    · subst same
      simp
    · by_cases earlier : number < created
      · simp [earlier, same, Nat.lt_succ_of_lt earlier]
      · have later : ¬ number < created + 1 := by omega
        simp [earlier, later]
  · simpa [record] using suppliedDeleted
  · simp [record] at held

end Ledger

end GridGooseSV
