import Mathlib.Data.List.Forall2

/-!
# Lists that agree item by item

Rules for two lists whose items at the same place are related.
-/

namespace GridGooseSV

variable {α β γ : Type}

section Paired

variable {relation : α → β → Prop} {first : List α} {second : List β}

theorem forall₂_get (paired : List.Forall₂ relation first second) {index : Nat} {item : α}
    (present : first[index]? = some item) :
    ∃ other, second[index]? = some other ∧ relation item other := by
  induction paired generalizing index with
  | nil => simp at present
  | cons head _ ih =>
      cases index with
      | zero => exact ⟨_, rfl, Option.some.inj present ▸ head⟩
      | succ index => exact ih present

theorem forall₂_mem (paired : List.Forall₂ relation first second) {item : α}
    (member : item ∈ first) : ∃ other ∈ second, relation item other := by
  obtain ⟨index, present⟩ := List.getElem?_of_mem member
  obtain ⟨other, found, related⟩ := forall₂_get paired present
  exact ⟨other, List.mem_of_getElem? found, related⟩

/-- Related items are put at one place of both lists. -/
theorem forall₂_set (paired : List.Forall₂ relation first second) {item : α} {other : β}
    (related : relation item other) (index : Nat) :
    List.Forall₂ relation (first.set index item) (second.set index other) := by
  induction paired generalizing index with
  | nil => exact .nil
  | cons head rest ih =>
      cases index with
      | zero => exact .cons related rest
      | succ index => exact .cons head (ih index)

/-- An item of the second list is replaced by one that is related to no less. -/
theorem forall₂_set_right (paired : List.Forall₂ relation first second) {index : Nat}
    {old new : β} (present : second[index]? = some old)
    (kept : ∀ item, relation item old → relation item new) :
    List.Forall₂ relation first (second.set index new) := by
  induction paired generalizing index with
  | nil => exact .nil
  | cons head rest ih =>
      cases index with
      | zero =>
          obtain rfl := Option.some.inj present
          exact .cons (kept _ head) rest
      | succ index => exact .cons head (ih present)

theorem forall₂_imp_of_mem {other : α → β → Prop} (paired : List.Forall₂ relation first second)
    (implies : ∀ item ∈ first, ∀ result, relation item result → other item result) :
    List.Forall₂ other first second := by
  induction paired with
  | nil => exact .nil
  | cons head _ ih =>
      exact .cons (implies _ List.mem_cons_self _ head)
        (ih fun item member => implies item (List.mem_cons_of_mem _ member))

/-- A relation that comes down to a property of its first side. -/
theorem forall₂_iff_forall_mem {property : α → Prop}
    (each : List.Forall₂ (fun item other => relation item other ↔ property item) first second) :
    List.Forall₂ relation first second ↔ ∀ item ∈ first, property item := by
  induction each with
  | nil => simp
  | cons head _ ih => rw [List.forall₂_cons, List.forall_mem_cons, head, ih]

end Paired

theorem forall₂_comp {first : α → β → Prop} {second : β → γ → Prop} {third : α → γ → Prop}
    (comp : ∀ a b c, first a b → second b c → third a c) {as : List α} {bs : List β}
    {cs : List γ} (left : List.Forall₂ first as bs) (right : List.Forall₂ second bs cs) :
    List.Forall₂ third as cs := by
  induction left generalizing cs with
  | nil =>
      cases right
      exact .nil
  | cons head _ ih =>
      cases right with
      | cons next others => exact .cons (comp _ _ _ head next) (ih others)

end GridGooseSV
