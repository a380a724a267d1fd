/-! # Merging runs

    Two ascending runs are merged item by item until one of them keeps winning; then whole stretches
    are taken at once, whose ends are found by doubling steps and bisection.  The shorter run is the
    one that is set aside, and the merge starts at its end of the row.  How often a run has to win
    before stretches are looked for is the patience, which carries over from merge to merge. -/

namespace LessonVariants

variable {α : Type}

/-- Bisection between two bounds for the first item with a property.  The number bounds the
    steps. -/
def firstWith (p : α → Bool) (row : Array α) : Nat → Nat → Nat → Nat
  | 0,     low, _    => low
  | n + 1, low, high =>
      if low < high then
        let middle := low + (high - low) / 2
        if (row[middle]?).any p then firstWith p row n low middle
        else firstWith p row n (middle + 1) high
      else low

/-- Steps that double away from a start while a test holds: the last step where it held and the one
    after it, cut off at a limit.  The number bounds the steps. -/
def doubling (holds : Nat → Bool) (limit : Nat) : Nat → Nat → Nat → Nat × Nat
  | 0,     last, step => (last, min step limit)
  | n + 1, last, step =>
      if step < limit && holds step then doubling holds limit n step (2 * step + 1)
      else (last, min step limit)

/-- Where the items with a property begin, searched from a hint by doubling steps and then by
    bisection. -/
def boundary (p : α → Bool) (row : Array α) (hint : Nat) : Nat :=
  if (row[hint]?).any p then
    let (last, step) := doubling (fun k => (row[hint - k]?).any p) (hint + 1) row.size 0 1
    firstWith p row row.size (hint + 1 - step) (hint - last)
  else
    let (last, step) :=
      doubling (fun k => !(row[hint + k]?).any p) (row.size - hint) row.size 0 1
    firstWith p row row.size (hint + last + 1) (hint + step)

/-- The length of a stretch that makes taking stretches worthwhile. -/
def longStretch : Nat := 7

/-- How two rows are merged: which head is taken, and how long the stretch of either row is that
    comes before the head of the other.  The second row may be the first to look for one. -/
structure Contest (α : Type) where
  secondWins    : α → α → Bool
  firstStretch  : List α → α → Nat
  secondStretch : List α → α → Nat
  secondLooks   : Bool

/-- The contest of two ascending rows from their fronts. -/
def Contest.ascending (below : α → α → Bool) : Contest α where
  secondWins x y     := below y x
  firstStretch xs y  := boundary (fun x => below y x) xs.toArray 0
  secondStretch ys x := boundary (fun y => !below y x) ys.toArray 0
  secondLooks        := false

/-- The contest of two ascending rows from their backs; both are given backwards, the later one
    first. -/
def Contest.descending (below : α → α → Bool) : Contest α where
  secondWins x y     := below x y
  firstStretch xs y  := xs.length - boundary (fun x => !below x y) xs.reverse.toArray (xs.length - 1)
  secondStretch ys x := ys.length - boundary (fun y => below x y) ys.reverse.toArray (ys.length - 1)
  secondLooks        := true

/-- A merge under way: what has been taken, newest first, and what is left of the two rows. -/
structure Merge (α : Type) where
  taken    : List α
  first    : List α
  second   : List α
  patience : Nat

namespace Merge

/-- Whether the rest needs no more comparison: the last item of the first row goes to the end. -/
def isOver (m : Merge α) : Bool :=
  m.second.isEmpty || m.first.length ≤ 1

/-- The merged row. -/
def result (m : Merge α) : List α :=
  m.taken.reverse ++ (m.second ++ m.first)

/-- Takes some items of the first row. -/
def takeFirst (m : Merge α) (n : Nat) : Merge α :=
  { m with taken := (m.first.take n).reverse ++ m.taken, first := m.first.drop n }

/-- Takes some items of the second row. -/
def takeSecond (m : Merge α) (n : Nat) : Merge α :=
  { m with taken := (m.second.take n).reverse ++ m.taken, second := m.second.drop n }

/-- Takes the stretch of the first row before the head of the second, then that head.  The number is
    the length of the stretch. -/
def stretchFirst (c : Contest α) (m : Merge α) : Nat × Merge α :=
  match m.second with
  | []     => (0, m)
  | y :: _ =>
      let n := c.firstStretch m.first y
      let m := m.takeFirst n
      (n, if m.isOver then m else m.takeSecond 1)

/-- Takes the stretch of the second row before the head of the first, then that head. -/
def stretchSecond (c : Contest α) (m : Merge α) : Nat × Merge α :=
  match m.first with
  | []     => (0, m)
  | x :: _ =>
      let n := c.secondStretch m.second x
      let m := m.takeSecond n
      (n, if m.isOver then m else m.takeFirst 1)

/-- Takes a stretch of either row.  The flag tells whether one of them was long. -/
def stretches (c : Contest α) (m : Merge α) : Bool × Merge α :=
  let (n, m) := if c.secondLooks then stretchSecond c m else stretchFirst c m
  if m.isOver then (false, m)
  else
    let (k, m) := if c.secondLooks then stretchFirst c m else stretchSecond c m
    (longStretch ≤ n || longStretch ≤ k, m)

/-- Whether the head of the second row is taken next. -/
def secondIsNext (m : Merge α) (c : Contest α) : Bool :=
  match m.first, m.second with
  | x :: _, y :: _ => c.secondWins x y
  | _,      _      => false

/-- How a merge proceeds: item by item, with the number of times that either row has just won, or by
    stretches, of which this may be the first. -/
inductive Pace where
  | single  (firstWon secondWon : Nat)
  | stretch (isFirst : Bool)

/-- Runs a merge until it is over.  The number bounds the steps. -/
def run (c : Contest α) : Nat → Pace → Merge α → Merge α
  | 0,     _,                 m => m
  | n + 1, .single won lost,  m =>
      if m.isOver then m
      else if m.secondIsNext c then
        run c n (if m.patience ≤ lost + 1 then .stretch true else .single 0 (lost + 1))
          (m.takeSecond 1)
      else
        run c n (if m.patience ≤ won + 1 then .stretch true else .single (won + 1) 0)
          (m.takeFirst 1)
  | n + 1, .stretch isFirst,  m =>
      if m.isOver then m
      else
        let eager := if isFirst || m.patience ≤ 1 then m.patience else m.patience - 1
        let (long, m) := stretches c { m with patience := eager }
        if m.isOver then m
        else if long then run c n (.stretch false) m
        else run c n (.single 0 0) { m with patience := m.patience + 1 }

/-- The merge of two rows in a contest whose first item belongs to the second row, and the patience
    after it. -/
def ofRows (c : Contest α) (patience : Nat) (first second : List α) : List α × Nat :=
  let m := run c (first.length + second.length) (.single 0 0)
    ((Merge.mk [] first second patience).takeSecond 1)
  (m.result, m.patience)

end Merge

/-- Merges two neighbouring ascending runs.  Items of the first run that stay in front, and items of
    the second that stay behind, are left alone. -/
def mergeRuns (below : α → α → Bool) (patience : Nat) (first second : List α) : List α × Nat :=
  match second with
  | []     => (first, patience)
  | y :: _ =>
      let skip := boundary (fun x => below y x) first.toArray 0
      let rest := first.drop skip
      match rest.getLast? with
      | none   => (first ++ second, patience)
      | some x =>
          let stop := boundary (fun z => !below z x) second.toArray (second.length - 1)
          let head := second.take stop
          if head.isEmpty then (first ++ second, patience)
          else if rest.length ≤ head.length then
            let (merged, patience) := Merge.ofRows (.ascending below) patience rest head
            (first.take skip ++ merged ++ second.drop stop, patience)
          else
            let (merged, patience) :=
              Merge.ofRows (.descending below) patience head.reverse rest.reverse
            (first.take skip ++ merged.reverse ++ second.drop stop, patience)

end LessonVariants
