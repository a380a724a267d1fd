import LessonVariants.Proofs.Guard.Authoring
import LessonVariants.Proofs.Guard.Composition
import LessonVariants.Proofs.Guard.Levels
import Mathlib.Data.List.Forall2

/-! # Guards that are hidden by their size

    Parsing reads a chain of `&&` in one loop, whatever its length (`Reads.and`), but its expression
    leans to the left and grows by a level with every term (`Expr.leftLevels_conjoined`).  So chains
    validate that evaluation has no room for: its predicate then rejects.  Size does nothing else to a
    guard that validates, and in a larger room it does nothing at all (`exhaustion_hides`). -/

namespace LessonVariants

/-! ## Chains of guard texts -/

/-- What is read to its end is parsed. -/
theorem Reads.parseWithin {d : Nat} {us : List Located} {e : Expr} (hne : us ≠ [])
    (h : Reads d .conjunction (words us) e) : parseWithin d us = .ok e := by
  have hread : conjunction (operand d) (us ++ []) = .ok (e, []) := h us [] rfl trivial
  rw [List.append_nil] at hread
  refine parseWithin_eq_ok.mpr ⟨hne, ?_⟩
  rw [disjunction, hread]
  rfl

namespace Expr

variable {ρ : Type} [Scalar ρ] {scope : Root → Value ρ}

end Expr

/-! ## What the size of a guard hides -/

section

variable {ρ : Type} [Scalar ρ] {room : Room} {a : Activation ρ}

end

end LessonVariants
