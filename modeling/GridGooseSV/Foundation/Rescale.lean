import Mathlib.Data.Nat.Basic

/-!
# Rounding down between two scales

An amount counted in steps of one scale is counted in the whole steps of another that it
reaches. Doing this to another scale and back never gains, and loses less than one step of
each of the two scales.
-/

namespace GridGooseSV

/-- How many whole steps of the target scale are in an amount of the source scale, where
`source` steps of the one are as much as `target` steps of the other. -/
def rescale (source target amount : Nat) : Nat := amount * target / source

variable {source target amount : Nat}

theorem rescale_mono {other : Nat} (ordered : amount ≤ other) :
    rescale source target amount ≤ rescale source target other := by
  apply Nat.div_le_div_right
  exact Nat.mul_le_mul_right target ordered

theorem rescale_lt (positive : 0 < target) (below : amount < source) :
    rescale source target amount < target := by
  apply Nat.div_lt_of_lt_mul
  exact Nat.mul_lt_mul_of_pos_right below positive

theorem rescale_mul_le : rescale source target amount * source ≤ amount * target :=
  Nat.div_mul_le_self _ _

theorem lt_rescale_succ_mul (positive : 0 < source) :
    amount * target < (rescale source target amount + 1) * source :=
  (Nat.div_lt_iff_lt_mul positive).mp (Nat.lt_succ_self _)

/-- Going back does not gain. -/
theorem rescale_back_le :
    rescale target source (rescale source target amount) ≤ amount := by
  apply Nat.div_le_of_le_mul
  rw [Nat.mul_comm target]
  exact rescale_mul_le

/-- Going there and back loses less than a step of each scale. -/
theorem mul_lt_rescale_back (positive : 0 < source) (positiveTarget : 0 < target) :
    amount * target + 2 ≤
      (rescale target source (rescale source target amount) + 1) * target + source := by
  have there := @lt_rescale_succ_mul source target amount positive
  have back := @lt_rescale_succ_mul target source (rescale source target amount) positiveTarget
  rw [Nat.succ_mul] at there
  omega

/-- An amount that is whole in the finer scale comes back. -/
theorem rescale_back_eq (positiveTarget : 0 < target)
    (whole : source ∣ amount * target) :
    rescale target source (rescale source target amount) = amount := by
  rw [rescale, rescale, Nat.div_mul_cancel whole, Nat.mul_div_cancel amount positiveTarget]

/-- Any other amount comes back one step short. -/
theorem rescale_back_short (finer : source ≤ target) (positive : 0 < source)
    (uneven : ¬ source ∣ amount * target) :
    rescale target source (rescale source target amount) + 1 = amount := by
  have whole := Nat.div_add_mod' (amount * target) source
  have rest := Nat.mod_lt (amount * target) positive
  have some : amount * target % source ≠ 0 := fun none => uneven (Nat.dvd_of_mod_eq_zero none)
  have nonzero : amount ≠ 0 := by
    intro zero
    rw [zero, Nat.zero_mul] at uneven
    exact uneven (Nat.dvd_zero source)
  obtain ⟨previous, rfl⟩ := Nat.exists_eq_add_one_of_ne_zero nonzero
  rw [Nat.succ_mul] at whole rest some
  rw [Nat.add_right_cancel_iff, rescale, rescale, Nat.succ_mul]
  apply Nat.div_eq_of_lt_le
  · omega
  · rw [Nat.succ_mul]
    omega

end GridGooseSV
