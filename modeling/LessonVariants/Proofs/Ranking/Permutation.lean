import LessonVariants.Ranking

/-! # Sorting loses no candidate

    Whatever the order is like, sorting by runs only moves items around: inserting, taking stretches
    and merging each give a permutation of what they are given (`sortByRuns_perm`).  So the winner
    of a ranking is one of its candidates, also where some scores are undefined (`winner?_mem`). -/

namespace LessonVariants

variable {α : Type}

/-! ## Insertion -/

theorem ascendingRun_perm (below : α → α → Bool) (xs : List α) :
    ((ascendingRun below xs).1 ++ (ascendingRun below xs).2).Perm xs := by
  unfold ascendingRun
  dsimp only
  split
  · calc
      ((xs.take _).reverse ++ xs.drop _).Perm (xs.take _ ++ xs.drop _) :=
        (List.reverse_perm _).append_right _
      _ = xs := List.take_append_drop _ xs
  · rw [List.take_append_drop]

theorem insertByBisection_perm (below : α → α → Bool) (row : List α) (x : α) :
    (insertByBisection below row x).Perm (x :: row) := by
  unfold insertByBisection
  dsimp only
  refine List.perm_middle.trans ?_
  rw [List.take_append_drop]

theorem foldl_insertByBisection_perm (below : α → α → Bool) (xs row : List α) :
    (xs.foldl (insertByBisection below) row).Perm (row ++ xs) := by
  induction xs generalizing row with
  | nil => rw [List.append_nil]; exact .rfl
  | cons x xs ih =>
      calc
        ((x :: xs).foldl (insertByBisection below) row).Perm
            (insertByBisection below row x ++ xs) := ih _
        (insertByBisection below row x ++ xs).Perm (x :: row ++ xs) :=
          (insertByBisection_perm below row x).append_right xs
        (x :: row ++ xs).Perm (row ++ x :: xs) := List.perm_middle.symm

theorem extendedRun_perm (below : α → α → Bool) (least : Nat) (xs : List α) :
    ((extendedRun below least xs).1 ++ (extendedRun below least xs).2).Perm xs := by
  unfold extendedRun
  generalize hrun : ascendingRun below xs = front
  obtain ⟨run, rest⟩ := front
  have hperm := ascendingRun_perm below xs
  rw [hrun] at hperm
  dsimp only at hperm ⊢
  refine List.Perm.trans ?_ hperm
  calc
    ((rest.take _).foldl (insertByBisection below) run ++ rest.drop _).Perm
        ((run ++ rest.take _) ++ rest.drop _) :=
      (foldl_insertByBisection_perm below _ run).append_right _
    _ = run ++ rest := by rw [List.append_assoc, List.take_append_drop]

/-! ## Merging -/

namespace Merge

theorem takeFirst_perm (m : Merge α) (n : Nat) : (m.takeFirst n).result.Perm m.result := by
  unfold takeFirst result
  dsimp only
  rw [List.reverse_append, List.reverse_reverse, List.append_assoc]
  refine List.Perm.append_left _ ?_
  calc
    (m.first.take n ++ (m.second ++ m.first.drop n)).Perm
        (m.second ++ (m.first.take n ++ m.first.drop n)) := List.perm_append_comm_assoc _ _ _
    _ = m.second ++ m.first := by rw [List.take_append_drop]

theorem takeSecond_result (m : Merge α) (n : Nat) : (m.takeSecond n).result = m.result := by
  unfold takeSecond result
  dsimp only
  rw [List.reverse_append, List.reverse_reverse, List.append_assoc,
    ← List.append_assoc (m.second.take n), List.take_append_drop]

theorem stretchFirst_perm (c : Contest α) (m : Merge α) :
    (stretchFirst c m).2.result.Perm m.result := by
  unfold stretchFirst
  split
  · exact .rfl
  · dsimp only
    split
    · exact takeFirst_perm m _
    · rw [takeSecond_result]
      exact takeFirst_perm m _

theorem stretchSecond_perm (c : Contest α) (m : Merge α) :
    (stretchSecond c m).2.result.Perm m.result := by
  unfold stretchSecond
  split
  · exact .rfl
  · dsimp only
    split
    · rw [takeSecond_result]
    · refine (takeFirst_perm _ 1).trans ?_
      rw [takeSecond_result]

theorem stretches_perm (c : Contest α) (m : Merge α) :
    (stretches c m).2.result.Perm m.result := by
  have hfirst := stretchFirst_perm c m
  have hsecond := stretchSecond_perm c m
  unfold stretches
  cases c.secondLooks with
  | true =>
      simp only [if_true]
      split
      · exact hsecond
      · exact (stretchFirst_perm c _).trans hsecond
  | false =>
      simp only [Bool.false_eq_true, if_false]
      split
      · exact hfirst
      · exact (stretchSecond_perm c _).trans hfirst

/-- However a merge proceeds, it keeps the items that it has. -/
theorem run_perm (c : Contest α) (n : Nat) (pace : Pace) (m : Merge α) :
    (run c n pace m).result.Perm m.result := by
  induction n generalizing pace m with
  | zero => cases pace <;> exact .rfl
  | succ n ih =>
      cases pace with
      | single won lost =>
          unfold run
          split
          · exact .rfl
          · split
            · refine (ih _ _).trans ?_
              rw [takeSecond_result]
            · exact (ih _ _).trans (takeFirst_perm m 1)
      | stretch isFirst =>
          unfold run
          split
          · exact .rfl
          · dsimp only
            generalize (if (isFirst || decide (m.patience ≤ 1)) = true then m.patience
              else m.patience - 1) = eager
            have hstretches : (stretches c { m with patience := eager }).2.result.Perm m.result :=
              stretches_perm c { m with patience := eager }
            split
            · exact hstretches
            · split
              · exact (ih _ _).trans hstretches
              · exact (ih _ _).trans hstretches

theorem ofRows_perm (c : Contest α) (patience : Nat) (first second : List α) :
    (ofRows c patience first second).1.Perm (first ++ second) := by
  unfold ofRows
  dsimp only
  refine (run_perm c _ _ _).trans ?_
  rw [takeSecond_result]
  exact (List.perm_append_comm : (second ++ first).Perm (first ++ second))

end Merge

theorem mergeRuns_perm (below : α → α → Bool) (patience : Nat) (first second : List α) :
    (mergeRuns below patience first second).1.Perm (first ++ second) := by
  unfold mergeRuns
  split
  · rw [List.append_nil]
  · next y ys =>
      dsimp only
      generalize boundary (fun x => below y x) first.toArray 0 = skip
      split
      · exact .rfl
      · next x hlast =>
          generalize boundary (fun z => !below z x) (y :: ys).toArray ((y :: ys).length - 1) = stop
          -- the items between the two bounds are merged, and those outside stay where they are
          have hinner : ∀ merged : List α, merged.Perm (first.drop skip ++ (y :: ys).take stop) →
              (first.take skip ++ merged ++ (y :: ys).drop stop).Perm (first ++ y :: ys) := by
            intro merged hmerged
            calc
              (first.take skip ++ merged ++ (y :: ys).drop stop).Perm
                  (first.take skip ++ (first.drop skip ++ (y :: ys).take stop)
                    ++ (y :: ys).drop stop) := (hmerged.append_left _).append_right _
              _ = first ++ y :: ys := by
                  rw [← List.append_assoc, List.take_append_drop, List.append_assoc,
                    List.take_append_drop]
          split
          · exact .rfl
          · split
            · exact hinner _ (Merge.ofRows_perm _ _ _ _)
            · refine hinner _ ((List.reverse_perm _).trans ((Merge.ofRows_perm _ _ _ _).trans ?_))
              refine List.perm_append_comm.trans ?_
              exact (List.reverse_perm _).append (List.reverse_perm _)

/-! ## Sorting by runs -/

/-- The items of the runs that wait. -/
def waitingItems (stack : List (WaitingRun α)) : List α :=
  stack.flatMap WaitingRun.items

theorem waitingItems_cons (r : WaitingRun α) (stack : List (WaitingRun α)) :
    waitingItems (r :: stack) = r.items ++ waitingItems stack := rfl

/-- Two neighbouring runs, merged, in place of both. -/
theorem waitingItems_merge (below : α → α → Bool) (patience : Nat) (start power : Nat)
    (top second : WaitingRun α) (rest : List (WaitingRun α)) :
    (waitingItems (⟨start, (mergeRuns below patience second.items top.items).1, power⟩ :: rest)).Perm
      (waitingItems (top :: second :: rest)) := by
  rw [waitingItems_cons, waitingItems_cons, waitingItems_cons, ← List.append_assoc]
  exact ((mergeRuns_perm below patience second.items top.items).trans
    List.perm_append_comm).append_right _

theorem collapse_cons (below : α → α → Bool) (power k : Nat) (top second : WaitingRun α)
    (rest : List (WaitingRun α)) (patience : Nat) :
    collapse below power (k + 1) (top :: second :: rest) patience =
      if power < second.power then
        let merged := mergeRuns below patience second.items top.items
        collapse below power k (⟨second.start, merged.1, second.power⟩ :: rest) merged.2
      else (top :: second :: rest, patience) := rfl

theorem collapse_perm (below : α → α → Bool) (power k : Nat) (stack : List (WaitingRun α))
    (patience : Nat) :
    (waitingItems (collapse below power k stack patience).1).Perm (waitingItems stack) := by
  induction k generalizing stack patience with
  | zero => exact .rfl
  | succ k ih =>
      match stack with
      | [] => exact .rfl
      | [_] => exact .rfl
      | top :: second :: rest =>
          rw [collapse_cons]
          split
          · exact (ih _ _).trans (waitingItems_merge below patience _ _ top second rest)
          · exact .rfl

theorem collapse_ne_nil (below : α → α → Bool) (power k : Nat) {stack : List (WaitingRun α)}
    (patience : Nat) (h : stack ≠ []) : (collapse below power k stack patience).1 ≠ [] := by
  induction k generalizing stack patience with
  | zero => exact h
  | succ k ih =>
      match stack, h with
      | [_], h => exact h
      | top :: second :: rest, h =>
          rw [collapse_cons]
          split
          · exact ih _ (List.cons_ne_nil _ rest)
          · exact h

theorem pushRun_perm (below : α → α → Bool) (length : Nat) (items : List α)
    (stack : List (WaitingRun α)) (patience : Nat) :
    (waitingItems (pushRun below length items stack patience).1).Perm
      (items ++ waitingItems stack) := by
  unfold pushRun
  split
  · exact .rfl
  · next top rest =>
      dsimp only
      have hperm := collapse_perm below (boundaryPower length top items.length)
        (top :: rest).length (top :: rest) patience
      have hsome := collapse_ne_nil below (boundaryPower length top items.length)
        (top :: rest).length patience (List.cons_ne_nil top rest)
      split
      · next r rest' patience' heq =>
          rw [heq] at hperm
          rw [waitingItems_cons]
          exact hperm.append_left items
      · next patience' heq =>
          rw [heq] at hsome
          exact absurd rfl hsome

/-- Merging what waits keeps its items, as long as there are enough steps. -/
theorem mergeWaiting_perm (below : α → α → Bool) (k : Nat) (stack : List (WaitingRun α))
    (patience : Nat) (h : stack.length ≤ k + 1) :
    (mergeWaiting below k stack patience).Perm (waitingItems stack) := by
  induction k generalizing stack patience with
  | zero =>
      match stack, h with
      | [], _ => exact .rfl
      | [top], _ => exact .of_eq (List.append_nil top.items).symm
  | succ k ih =>
      match stack, h with
      | [], _ => exact .rfl
      | [top], _ => exact .of_eq (List.append_nil top.items).symm
      | [top, second], _ =>
          have hmerge := waitingItems_merge below patience 0 0 top second []
          rw [waitingItems_cons, show waitingItems ([] : List (WaitingRun α)) = [] from rfl,
            List.append_nil] at hmerge
          exact hmerge
      | top :: second :: third :: rest, h =>
          unfold mergeWaiting
          simp only [List.length_cons] at h
          split
          · refine (ih _ _ (by simp only [List.length_cons]; omega)).trans ?_
            exact (waitingItems_merge below patience _ _ second third rest).append_left top.items
          · refine (ih _ _ (by simp only [List.length_cons]; omega)).trans ?_
            exact waitingItems_merge below patience _ _ top second (third :: rest)

theorem runLength_pos (below : α → α → Bool) (descending : Bool) {xs : List α} (h : xs ≠ []) :
    0 < runLength below descending xs := by
  match xs, h with
  | [_], _ => exact Nat.one_pos
  | x :: y :: zs, _ =>
      unfold runLength
      split
      · exact Nat.succ_pos _
      · exact Nat.one_pos

/-- The run at the front of a row takes at least one item. -/
theorem extendedRun_length (below : α → α → Bool) (least : Nat) {xs : List α} (h : xs ≠ []) :
    (extendedRun below least xs).2.length < xs.length := by
  have hrun := runLength_pos below (startsDown below xs) h
  have hrow := List.length_pos_iff.mpr h
  show (List.drop _ (xs.drop (runLength below (startsDown below xs) xs))).length < xs.length
  rw [List.length_drop, List.length_drop]
  omega

theorem sortRuns_perm (below : α → α → Bool) (length least k : Nat) (xs : List α)
    (stack : List (WaitingRun α)) (patience : Nat) (h : xs.length ≤ k) :
    (sortRuns below length least k xs stack patience).Perm (waitingItems stack ++ xs) := by
  induction k generalizing xs stack patience with
  | zero =>
      obtain rfl := List.eq_nil_of_length_eq_zero (Nat.le_zero.mp h)
      rw [List.append_nil]
      exact mergeWaiting_perm below _ stack patience (Nat.le_succ _)
  | succ k ih =>
      unfold sortRuns
      split
      · next hempty =>
          rw [List.isEmpty_iff.mp hempty, List.append_nil]
          exact mergeWaiting_perm below _ stack patience (Nat.le_succ _)
      · next hsome =>
          dsimp only
          have hne : xs ≠ [] := fun hnil => hsome (List.isEmpty_iff.mpr hnil)
          have hshort := extendedRun_length below least hne
          refine (ih _ _ _ (by omega)).trans ?_
          calc
            (waitingItems (pushRun below length (extendedRun below least xs).1 stack patience).1
                ++ (extendedRun below least xs).2).Perm
              (((extendedRun below least xs).1 ++ waitingItems stack)
                ++ (extendedRun below least xs).2) :=
                (pushRun_perm below length _ stack patience).append_right _
            _ |>.Perm ((waitingItems stack ++ (extendedRun below least xs).1)
                ++ (extendedRun below least xs).2) := List.perm_append_comm.append_right _
            _ = waitingItems stack ++ ((extendedRun below least xs).1
                ++ (extendedRun below least xs).2) := List.append_assoc _ _ _
            _ |>.Perm (waitingItems stack ++ xs) := (extendedRun_perm below least xs).append_left _

/-- **Sorting by runs is a permutation**, whatever the order is like. -/
theorem sortByRuns_perm (below : α → α → Bool) (xs : List α) : (sortByRuns below xs).Perm xs :=
  sortRuns_perm below xs.length (leastRun xs.length) xs.length xs [] longStretch (Nat.le_refl _)

/-! ## The winner -/

/-- **The winner of a ranking is one of its candidates**, also where scores are undefined. -/
theorem winner?_mem {ρ : Type} [Scalar ρ] {scored : List (α × ρ)} {best : α × ρ}
    (h : winner? scored = some best) : best ∈ scored := by
  have hranked := List.mem_reverse.mp (List.mem_of_head? h)
  exact List.mem_reverse.mp ((sortByRuns_perm _ _).mem_iff.mp hranked)

end LessonVariants
