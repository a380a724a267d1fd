import LessonVariants.Number.Basic
import LessonVariants.Ranking.Runs

/-! # Ranking

    Candidates are ranked by descending score, and of equal scores the first declared comes first: they
    are sorted backwards by ascending score, and the row is turned round again.  An undefined score
    compares with none; where there is one, the steps of the sort fix the ranking. -/

namespace LessonVariants

variable {α ρ : Type} [Scalar ρ]

/-- A candidate with a strictly lower score than another one. -/
def scoresBelow (a b : α × ρ) : Bool :=
  Scalar.lt a.2 b.2

/-- The candidates by descending score. -/
def ranked (scored : List (α × ρ)) : List (α × ρ) :=
  (sortByRuns scoresBelow scored.reverse).reverse

/-- The highest-ranked candidate by score. -/
def winner? (scored : List (α × ρ)) : Option (α × ρ) :=
  (ranked scored).head?

end LessonVariants
