import LessonVariants.Ranking.Insertion
import LessonVariants.Ranking.Merge

/-! # Sorting by runs

    A row is cut into runs, and neighbouring runs are merged in the order of their powers: the power
    of a boundary is the first binary place in which the midpoints of its two runs, as parts of the
    whole row, differ.  Deep boundaries are merged before shallow ones.  Where the order is not
    total, for instance because numbers are undefined, these steps fix the outcome. -/

namespace LessonVariants

variable {α : Type}

/-- A run that waits to be merged: where it starts, its items, and the power of the boundary behind
    it. -/
structure WaitingRun (α : Type) where
  start : Nat
  items : List α
  power : Nat

/-- The least length of a run: a row below 64 items is one run, and longer ones are halved until
    they are, counting a half as a whole.  The first number bounds the steps. -/
def leastRunWithin : Nat → Nat → Nat → Nat
  | 0,     n, odd => n + odd
  | k + 1, n, odd => if n < 64 then n + odd else leastRunWithin k (n / 2) (max odd (n % 2))

/-- The least length of a run in a row of a given length. -/
def leastRun (n : Nat) : Nat :=
  leastRunWithin n n 0

/-- The first binary place in which two fractions of a length differ, the first one being below
    the second and both below two.  The first number bounds the places. -/
def firstDifferingPlace (length : Nat) : Nat → Nat → Nat → Nat
  | 0,     _, _ => 0
  | k + 1, a, b =>
      if length ≤ a then firstDifferingPlace length k (2 * (a - length)) (2 * (b - length)) + 1
      else if length ≤ b then 1
      else firstDifferingPlace length k (2 * a) (2 * b) + 1

/-- The power of the boundary between a run and the next one. -/
def boundaryPower (length : Nat) (r : WaitingRun α) (next : Nat) : Nat :=
  let a := 2 * r.start + r.items.length
  firstDifferingPlace length (length + 1) a (a + r.items.length + next)

/-- Merges the two topmost runs while the boundary between them is deeper than a power.  The number
    bounds the steps. -/
def collapse (below : α → α → Bool) (power : Nat) :
    Nat → List (WaitingRun α) → Nat → List (WaitingRun α) × Nat
  | k + 1, top :: second :: rest, patience =>
      if power < second.power then
        let (items, patience) := mergeRuns below patience second.items top.items
        collapse below power k (⟨second.start, items, second.power⟩ :: rest) patience
      else (top :: second :: rest, patience)
  | _, stack, patience => (stack, patience)

/-- Puts a run on top of the waiting ones, after merging what is deeper than its boundary. -/
def pushRun (below : α → α → Bool) (length : Nat) (items : List α)
    (stack : List (WaitingRun α)) (patience : Nat) : List (WaitingRun α) × Nat :=
  match stack with
  | []       => ([⟨0, items, 0⟩], patience)
  | top :: _ =>
      let power := boundaryPower length top items.length
      match collapse below power stack.length stack patience with
      | (r :: rest, patience) =>
          (⟨r.start + r.items.length, items, 0⟩ :: ⟨r.start, r.items, power⟩ :: rest, patience)
      | ([], patience) => ([⟨0, items, 0⟩], patience)

/-- Merges all waiting runs, first those between which the older one is the shorter.  The number
    bounds the steps. -/
def mergeWaiting (below : α → α → Bool) : Nat → List (WaitingRun α) → Nat → List α
  | k + 1, top :: second :: third :: rest, patience =>
      if third.items.length < top.items.length then
        let (items, patience) := mergeRuns below patience third.items second.items
        mergeWaiting below k (top :: ⟨third.start, items, third.power⟩ :: rest) patience
      else
        let (items, patience) := mergeRuns below patience second.items top.items
        mergeWaiting below k (⟨second.start, items, second.power⟩ :: third :: rest) patience
  | _ + 1, [top, second], patience => (mergeRuns below patience second.items top.items).1
  | _,     [top],         _        => top.items
  | _,     _,             _        => []

/-- Cuts a row into runs and merges them.  The number bounds the runs. -/
def sortRuns (below : α → α → Bool) (length least : Nat) :
    Nat → List α → List (WaitingRun α) → Nat → List α
  | 0,     _,  stack, patience => mergeWaiting below stack.length stack patience
  | k + 1, xs, stack, patience =>
      if xs.isEmpty then mergeWaiting below stack.length stack patience
      else
        let (items, rest) := extendedRun below least xs
        let (stack, patience) := pushRun below length items stack patience
        sortRuns below length least k rest stack patience

/-- A row in ascending order; items of which neither is below the other keep their order where the
    order is total. -/
def sortByRuns (below : α → α → Bool) (xs : List α) : List α :=
  sortRuns below xs.length (leastRun xs.length) xs.length xs [] longStretch

end LessonVariants
