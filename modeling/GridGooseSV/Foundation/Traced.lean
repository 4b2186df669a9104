import Mathlib.Data.List.Basic

/-!
# Computations that leave a trace

A traced computation returns a value together with the events it caused, in
order. Functional properties of a program speak of `value` alone; safety
properties speak of `trace`. The two are reasoned about separately: the value of
a sequence is the value of its parts, and every event of a sequence is an event
of one of its parts.
-/

namespace GridGooseSV

/-- A value and the events that computing it caused. -/
structure Traced (ε : Type) (α : Type) where
  value : α
  trace : List ε
  deriving DecidableEq, Repr

namespace Traced

variable {ε α β : Type}

instance : Monad (Traced ε) where
  pure value := ⟨value, []⟩
  bind first next := ⟨(next first.value).value, first.trace ++ (next first.value).trace⟩

/-- Cause one event. -/
def emit (event : ε) : Traced ε Unit := ⟨(), [event]⟩

/-- Cause events, in order. -/
def emitAll (events : List ε) : Traced ε Unit := ⟨(), events⟩

@[simp] theorem value_pure (value : α) : (pure value : Traced ε α).value = value := rfl

@[simp] theorem value_bind (first : Traced ε α) (next : α → Traced ε β) :
    (first >>= next).value = (next first.value).value := rfl

@[simp] theorem value_map (first : Traced ε α) (change : α → β) :
    (change <$> first).value = change first.value := rfl

@[simp] theorem value_ite (condition : Prop) [Decidable condition] (first second : Traced ε α) :
    (if condition then first else second).value =
      if condition then first.value else second.value :=
  apply_ite Traced.value ..

@[simp] theorem value_dite (condition : Prop) [Decidable condition]
    (first : condition → Traced ε α) (second : ¬ condition → Traced ε α) :
    (if holds : condition then first holds else second holds).value =
      if holds : condition then (first holds).value else (second holds).value :=
  apply_dite Traced.value ..

@[simp] theorem value_emit (event : ε) : (emit event).value = () := rfl

@[simp] theorem value_emitAll (events : List ε) : (emitAll events).value = () := rfl

/-- What follows a computation matters only for its value. -/
theorem bind_congr {first : Traced ε α} {next other : α → Traced ε β}
    (same : next first.value = other first.value) : first >>= next = first >>= other := by
  change Traced.mk _ _ = Traced.mk _ _
  rw [same]

/-- Every event of the computation satisfies the predicate. -/
def Always (predicate : ε → Prop) (computation : Traced ε α) : Prop :=
  ∀ event ∈ computation.trace, predicate event

variable {predicate : ε → Prop}

theorem Always.mono {stronger : ε → Prop} {computation : Traced ε α}
    (holds : computation.Always stronger) (weaken : ∀ event, stronger event → predicate event) :
    computation.Always predicate :=
  fun event member => weaken event (holds event member)

@[simp] theorem always_pure (value : α) : (pure value : Traced ε α).Always predicate := by
  intro event member
  exact absurd member List.not_mem_nil

@[simp] theorem always_emit (event : ε) :
    (emit event).Always predicate ↔ predicate event := by
  simp [Always, emit]

@[simp] theorem always_emitAll (events : List ε) :
    (emitAll events).Always predicate ↔ ∀ event ∈ events, predicate event := Iff.rfl

theorem Always.bind {first : Traced ε α} {next : α → Traced ε β}
    (before : first.Always predicate) (after : (next first.value).Always predicate) :
    (first >>= next).Always predicate := by
  intro event member
  rcases List.mem_append.mp member with earlier | later
  · exact before event earlier
  · exact after event later

theorem always_bind {first : Traced ε α} {next : α → Traced ε β} :
    (first >>= next).Always predicate ↔
      first.Always predicate ∧ (next first.value).Always predicate := by
  constructor
  · intro holds
    exact ⟨fun event member => holds event (List.mem_append_left _ member),
      fun event member => holds event (List.mem_append_right _ member)⟩
  · intro holds
    exact holds.1.bind holds.2

theorem always_ite {condition : Prop} [Decidable condition] {first second : Traced ε α} :
    (if condition then first else second).Always predicate ↔
      (condition → first.Always predicate) ∧ (¬ condition → second.Always predicate) := by
  split <;> simp [*]

theorem Always.ite {condition : Prop} [Decidable condition] {first second : Traced ε α}
    (whenTrue : condition → first.Always predicate)
    (whenFalse : ¬ condition → second.Always predicate) :
    (if condition then first else second).Always predicate := by
  split
  · exact whenTrue ‹_›
  · exact whenFalse ‹_›

end Traced

/-- A computation with fuel is over before the fuel is: more of it changes nothing. -/
def Settles {α : Type} (computation : Nat → α) (bound : Nat) : Prop :=
  ∀ fuel, bound ≤ fuel → computation fuel = computation bound

end GridGooseSV
