import LessonVariants.Session.Update
import Mathlib.Algebra.BigOperators.Fin
import Mathlib.Algebra.Order.Ring.Rat
import Mathlib.Order.Interval.Set.Defs
import Mathlib.Tactic.Ring

/-! # Smoothing

    A smoothed value is blended with one observation after the other.  In exact arithmetic it comes to
    a weighted mean of its start and the observations, in which each observation weighs less than the
    next one by the factor `alpha` (`foldl_blend_eq`), and it stays between any bounds of the start and
    the observations (`foldl_blend_mem`). -/

namespace LessonVariants

/-- In exact arithmetic a blend is a weighted mean of two values. -/
theorem blend_rat (alpha previous observed : Rat) :
    blend alpha previous observed = alpha * previous + (1 - alpha) * observed :=
  rfl

theorem outcome_rat (correct : Bool) : (outcome correct : Rat) = if correct then 1 else 0 := by
  cases correct <;> rfl

/-- The weighted mean of a start and of observations `x₁, …, xₙ`, in the closed form
    `αⁿ · start + (1 - α) · Σ αⁿ⁻ⁱ · xᵢ`. -/
def weightedMean (alpha start : Rat) (xs : List Rat) : Rat :=
  alpha ^ xs.length * start
    + (1 - alpha) * ∑ i : Fin xs.length, alpha ^ (xs.length - (i + 1)) * xs[i]

theorem weightedMean_nil (alpha start : Rat) : weightedMean alpha start [] = start := by
  simp [weightedMean]

/-- The first observation may be blended with the start. -/
theorem weightedMean_cons (alpha start x : Rat) (xs : List Rat) :
    weightedMean alpha start (x :: xs) = weightedMean alpha (blend alpha start x) xs := by
  -- the other observations have as many behind them as before, and so the same weights
  have hsum : ∑ i : Fin (x :: xs).length, alpha ^ ((x :: xs).length - (i + 1)) * (x :: xs)[i]
      = alpha ^ xs.length * x + ∑ i : Fin xs.length, alpha ^ (xs.length - (i + 1)) * xs[i] := by
    simp [Fin.sum_univ_succ]
  rw [weightedMean, weightedMean, hsum, blend_rat, List.length_cons]
  ring

/-- **Smoothing has a closed form.** -/
theorem foldl_blend_eq (alpha start : Rat) (xs : List Rat) :
    xs.foldl (blend alpha) start = weightedMean alpha start xs := by
  induction xs generalizing start with
  | nil => exact (weightedMean_nil alpha start).symm
  | cons x xs ih => rw [List.foldl_cons, ih, weightedMean_cons]

variable {alpha low high : Rat}

/-- A blend lies between any bounds of the two values. -/
theorem blend_mem (h₀ : 0 ≤ alpha) (h₁ : alpha ≤ 1) {previous observed : Rat}
    (hprevious : previous ∈ Set.Icc low high) (hobserved : observed ∈ Set.Icc low high) :
    blend alpha previous observed ∈ Set.Icc low high := by
  have hrest : 0 ≤ 1 - alpha := sub_nonneg.mpr h₁
  have hsplit : ∀ x : Rat, x = alpha * x + (1 - alpha) * x := fun x => by ring
  rw [blend_rat]
  constructor
  · calc
      low = alpha * low + (1 - alpha) * low := hsplit low
      _ ≤ alpha * previous + (1 - alpha) * observed :=
        add_le_add (mul_le_mul_of_nonneg_left hprevious.1 h₀)
          (mul_le_mul_of_nonneg_left hobserved.1 hrest)
  · calc
      alpha * previous + (1 - alpha) * observed ≤ alpha * high + (1 - alpha) * high :=
        add_le_add (mul_le_mul_of_nonneg_left hprevious.2 h₀)
          (mul_le_mul_of_nonneg_left hobserved.2 hrest)
      _ = high := (hsplit high).symm

/-- **A smoothed value keeps the bounds of its start and of the observations.** -/
theorem foldl_blend_mem (h₀ : 0 ≤ alpha) (h₁ : alpha ≤ 1) {start : Rat} {xs : List Rat}
    (hstart : start ∈ Set.Icc low high) (hxs : ∀ x ∈ xs, x ∈ Set.Icc low high) :
    xs.foldl (blend alpha) start ∈ Set.Icc low high := by
  induction xs generalizing start with
  | nil => exact hstart
  | cons x xs ih =>
      obtain ⟨hx, hrest⟩ := List.forall_mem_cons.mp hxs
      exact ih (blend_mem h₀ h₁ hstart hx) hrest

end LessonVariants
