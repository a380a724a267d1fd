/-! # Sorting by insertion

    A row is sorted from the run at its front: the items that follow are inserted one after the
    other, each at the place that bisection finds. -/

namespace LessonVariants

variable {α : Type}

/-- The place for an item in a row by bisection between two bounds: behind everything that it is
    not below.  The number bounds the steps. -/
def bisect (below : α → α → Bool) (row : List α) (x : α) : Nat → Nat → Nat → Nat
  | 0,     low, _    => low
  | n + 1, low, high =>
      if low < high then
        let middle := low + (high - low) / 2
        match row[middle]? with
        | some y =>
            if below x y then bisect below row x n low middle
            else bisect below row x n (middle + 1) high
        | none   => low
      else low

/-- The length of the run at the front: of items each below the one before, or of items none of
    which is below the one before. -/
def runLength (below : α → α → Bool) (descending : Bool) : List α → Nat
  | []           => 0
  | [_]          => 1
  | x :: y :: zs => if below y x == descending then runLength below descending (y :: zs) + 1 else 1

/-- Whether the run at the front descends. -/
def startsDown (below : α → α → Bool) : List α → Bool
  | []          => false
  | [_]         => false
  | x :: y :: _ => below y x

/-- The run at the front in ascending order, and the remaining items. -/
def ascendingRun (below : α → α → Bool) (xs : List α) : List α × List α :=
  let descending := startsDown below xs
  let n := runLength below descending xs
  (if descending then (xs.take n).reverse else xs.take n, xs.drop n)

/-- Inserts an item into a row at the place found by bisection. -/
def insertByBisection (below : α → α → Bool) (row : List α) (x : α) : List α :=
  let place := bisect below row x (row.length + 1) 0 row.length
  row.take place ++ x :: row.drop place

/-- The run at the front, brought to a least length by insertion, and the remaining items. -/
def extendedRun (below : α → α → Bool) (least : Nat) (xs : List α) : List α × List α :=
  let (run, rest) := ascendingRun below xs
  let n := least - run.length
  ((rest.take n).foldl (insertByBisection below) run, rest.drop n)

end LessonVariants
