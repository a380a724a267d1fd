import LessonVariants.Proofs.Number.Order
import Mathlib.Algebra.Order.Ring.Unbundled.Rat
import Mathlib.Order.WithBot

/-! # Readings among the extended rationals

    A defined reading denotes a rational or one of the two infinities, and readings are ordered as what
    they denote. -/

namespace LessonVariants

/-- What a reading denotes among the rationals and the two infinities; the undefined one denotes
    nothing. -/
def Reading.extended? : Reading → Option (WithBot (WithTop ℚ))
  | undefined   => none
  | negInfinity => some ⊥
  | finite q    => some ((q : WithTop ℚ) : WithBot (WithTop ℚ))
  | posInfinity => some ((⊤ : WithTop ℚ) : WithBot (WithTop ℚ))

theorem Reading.extended?_eq_some {r : Reading} (h : r ≠ .undefined) :
    ∃ v, r.extended? = some v := by
  cases r with
  | undefined => exact absurd rfl h
  | _ => exact ⟨_, rfl⟩

/-- Two readings are ordered as what they denote. -/
theorem Reading.compare?_compares {a b : Reading} {v w : WithBot (WithTop ℚ)}
    (ha : a.extended? = some v) (hb : b.extended? = some w) :
    ∃ o, a.compare? b = some o ∧ o.Compares v w := by
  cases a <;> cases b <;> cases ha <;> cases hb
  case finite.finite p q =>
    refine ⟨_, rfl, ?_⟩
    by_cases hlt : p < q
    · rw [if_pos hlt]
      exact WithBot.coe_lt_coe.mpr (WithTop.coe_lt_coe.mpr hlt)
    · rw [if_neg hlt]
      by_cases heq : p = q
      · rw [if_pos heq, heq]
        rfl
      · rw [if_neg heq]
        have hgt : q < p := lt_of_le_of_ne (not_lt.mp hlt) (Ne.symm heq)
        exact WithBot.coe_lt_coe.mpr (WithTop.coe_lt_coe.mpr hgt)
  -- a pair with an infinity has one order whatever the other is
  all_goals refine ⟨_, rfl, ?_⟩
  all_goals first
    | rfl
    | exact WithBot.bot_lt_coe _
    | exact WithBot.coe_lt_coe.mpr (WithTop.coe_lt_top _)

end LessonVariants
