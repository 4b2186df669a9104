import Mathlib.Data.List.Pairwise

/-!
# Ranges that tile a block

Ranges are reserved one behind the other, so that they tile a block. What is put in one of them
stands there until something is put in the same one.
-/

namespace GridGooseSV

/-- So many places from a start on. -/
structure Range where
  start : Nat
  size : Nat
  deriving DecidableEq, Repr

namespace Range

/-- Two ranges have no place in common. -/
def Apart (first second : Range) : Prop :=
  first.start + first.size ≤ second.start ∨ second.start + second.size ≤ first.start

/-- The place is in the range. -/
def Has (range : Range) (place : Nat) : Prop :=
  range.start ≤ place ∧ place < range.start + range.size

end Range

/-- Ranges have no place in common and together have all places of a block. -/
structure Tiles (ranges : List Range) (size : Nat) : Prop where
  apart : ranges.Pairwise Range.Apart
  within : ∀ range ∈ ranges, range.start + range.size ≤ size
  covers : ∀ place < size, ∃ range ∈ ranges, range.Has place

namespace Tiles

theorem nil : Tiles [] 0 := ⟨.nil, nofun, nofun⟩

variable {ranges : List Range} {size : Nat}

/-- A range is reserved behind a block. -/
theorem concat (tiles : Tiles ranges size) (count : Nat) :
    Tiles (ranges ++ [⟨size, count⟩]) (size + count) where
  apart := by
    refine List.pairwise_append.mpr ⟨tiles.apart, List.pairwise_singleton _ _, ?_⟩
    intro range member last new
    obtain rfl := List.mem_singleton.mp new
    exact .inl (tiles.within range member)
  within := by
    intro range member
    rcases List.mem_append.mp member with earlier | new
    · exact Nat.le_add_right_of_le (tiles.within range earlier)
    · obtain rfl := List.mem_singleton.mp new
      exact Nat.le_refl _
  covers := by
    intro place below
    by_cases earlier : place < size
    · obtain ⟨range, member, has⟩ := tiles.covers place earlier
      exact ⟨range, List.mem_append_left _ member, has⟩
    · exact ⟨⟨size, count⟩, List.mem_append_right _ (List.mem_singleton.mpr rfl),
        Nat.le_of_not_lt earlier, below⟩

/-- Things whose ranges tile a block are the same or have no place in common. -/
theorem eq_or_apart {α : Type} {items : List α} {rangeOf : α → Range}
    (tiles : Tiles (items.map rangeOf) size) {first second : α} (member : first ∈ items)
    (other : second ∈ items) : first = second ∨ (rangeOf first).Apart (rangeOf second) := by
  have apart : items.Pairwise fun one another => (rangeOf one).Apart (rangeOf another) :=
    List.pairwise_map.mp tiles.apart
  have symm : Std.Symm fun one another => (rangeOf one).Apart (rangeOf another) :=
    ⟨fun _ _ => Or.symm⟩
  by_cases same : first = second
  · exact .inl same
  · exact .inr (apart.forall member other same)

end Tiles

/-! ## What stands in a range -/

section Slices

variable {α : Type}

/-- What stands in a range. -/
def sliceOf (items : List α) (range : Range) : List α := (items.drop range.start).take range.size

theorem sliceOf_replaced {items new : List α} {index : Nat}
    (fits : index + new.length ≤ items.length) :
    sliceOf (items.take index ++ (new ++ items.drop (index + new.length))) ⟨index, new.length⟩ =
      new := by
  have front : (items.take index).length = index := by
    rw [List.length_take]
    omega
  rw [sliceOf, List.drop_left' front, List.take_left']
  rfl

/-- What stands apart from a range that is replaced is kept. -/
theorem sliceOf_apart {items new : List α} {index : Nat}
    (fits : index + new.length ≤ items.length) {range : Range}
    (apart : range.Apart ⟨index, new.length⟩) :
    sliceOf (items.take index ++ (new ++ items.drop (index + new.length))) range =
      sliceOf items range := by
  have front : (items.take index).length = index := by
    rw [List.length_take]
    omega
  apply List.ext_getElem?
  intro place
  rw [sliceOf, sliceOf, List.getElem?_take, List.getElem?_take, List.getElem?_drop,
    List.getElem?_drop]
  by_cases inside : place < range.size
  · rw [if_pos inside, if_pos inside]
    rcases apart with before | behind
    · simp only at before
      rw [List.getElem?_append_left (by omega), List.getElem?_take, if_pos (by omega)]
    · simp only at behind
      rw [List.getElem?_append_right (by omega), List.getElem?_append_right (by omega),
        List.getElem?_drop, front]
      congr 1
      omega
  · rw [if_neg inside, if_neg inside]

end Slices

end GridGooseSV
