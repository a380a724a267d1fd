import LessonVariants.Proofs.Ranking.Merging
import LessonVariants.Proofs.Ranking.Permutation
import Mathlib.Data.List.Chain

/-! # Sorting by runs sorts stably

    An item is inserted behind everything that it is not below (`insertByBisection_sorts`), and the run
    at the front of a row is in order, or strictly against it, in which case it is turned round
    (`ascendingRun_sorts`).  The runs that wait are each in order, and all together they hold what was
    taken from the row, as it stood there (`Stacked`); merging two neighbours keeps that.  So sorting by
    runs sorts stably, whatever the powers of the boundaries are (`sortByRuns_sorts`). -/

namespace LessonVariants

variable {α κ : Type} [LinearOrder κ] {below : α → α → Bool} {key : α → κ}

/-- What is sorted in two steps, the second of which adds items behind. -/
theorem SortsTo.extend {xs ys more zs : List α} (h : SortsTo key xs ys)
    (h' : SortsTo key (ys ++ more) zs) : SortsTo key (xs ++ more) zs :=
  ⟨h'.ascending, h'.same.trans (h.same.append (.refl more))⟩

/-! ## Insertion -/

/-- **Bisection finds the place for an item.** -/
theorem bisect_parts {row : List α} {x : α} (h : RanksBy below key (x :: row))
    (hasc : Ascending key row) :
    ∀ {n low high : Nat}, BeginsBetween (fun y => decide (key x < key y)) row low high →
      high - low ≤ n →
        Parts (fun y => decide (key x < key y)) row (bisect below row x n low high) := by
  have hrising : Rising (fun y => decide (key x < key y)) row :=
    hasc.rising fun y _ z _ hyz hxy =>
      decide_eq_true (lt_of_lt_of_le (of_decide_eq_true hxy) hyz)
  intro n
  induction n with
  | zero =>
      intro low high hplace hn
      obtain rfl : low = high := by have := hplace.le; omega
      exact hplace
  | succ n ih =>
      intro low high hplace hn
      rw [bisect]
      by_cases hlt : low < high
      · have hmiddle : low + (high - low) / 2 < row.length := by have := hplace.inside; omega
        have hget := List.getElem?_eq_getElem hmiddle
        have hbelow := h.below_eq List.mem_cons_self
          (List.mem_cons_of_mem x (List.getElem_mem hmiddle))
        rw [if_pos hlt]
        dsimp only
        rw [hget]
        dsimp only
        cases hxy : below x row[low + (high - low) / 2] with
        | true =>
            rw [if_pos rfl]
            exact ih (hplace.lower hrising (by omega) hget (hbelow.symm.trans hxy)) (by omega)
        | false =>
            rw [if_neg Bool.false_ne_true]
            exact ih (hplace.raise hrising (by omega) hget (hbelow.symm.trans hxy)) (by omega)
      · obtain rfl : low = high := by have := hplace.le; omega
        rw [if_neg hlt]
        exact hplace

/-- **An item is inserted stably**: behind everything that it is not below. -/
theorem insertByBisection_sorts {row : List α} {x : α} (h : RanksBy below key (x :: row))
    (hasc : Ascending key row) : SortsTo key (row ++ [x]) (insertByBisection below row x) := by
  have hwhole : BeginsBetween (fun y => decide (key x < key y)) row 0 row.length :=
    ⟨Nat.zero_le _, Nat.le_refl _, fun i y hi => absurd hi (Nat.not_lt_zero i),
      fun i y hi hy => absurd (List.getElem?_eq_some_iff.mp hy).1 (Nat.not_lt.mpr hi)⟩
  have hparts := bisect_parts h hasc hwhole (n := row.length + 1) (by omega)
  unfold insertByBisection
  dsimp only
  generalize bisect below row x (row.length + 1) 0 row.length = place at hparts
  have hbefore : ∀ y ∈ row.take place, key y ≤ key x := fun y hy =>
    not_lt.mp (of_decide_eq_false (hparts.take y hy))
  have hafter : ∀ y ∈ row.drop place, key x < key y := fun y hy =>
    of_decide_eq_true (hparts.drop y hy)
  obtain ⟨htake, hdrop, hcross⟩ := hasc.split place
  constructor
  · refine htake.append (List.pairwise_cons.mpr ⟨fun y hy => (hafter y hy).le, hdrop⟩) ?_
    intro y hy z hz
    rcases List.mem_cons.mp hz with rfl | hz
    · exact hbefore y hy
    · exact hcross y hy z hz
  · -- the item passes what it is below, and shares no key with that
    have hpass : SameByKey key ([x] ++ row.drop place) (row.drop place ++ [x]) := by
      refine .swap fun y hy z hz => ?_
      rw [List.mem_singleton.mp hy]
      exact (hafter z hz).ne
    have hfront : SameByKey key (row.take place) (row.take place) := .refl _
    have hmoved := hfront.append hpass
    rw [← List.append_assoc, ← List.append_assoc, List.take_append_drop] at hmoved
    rw [List.append_cons]
    exact hmoved

/-- **Items are inserted stably one after the other.** -/
theorem foldl_insertByBisection_sorts {xs : List α} :
    ∀ {row : List α}, RanksBy below key (row ++ xs) → Ascending key row →
      SortsTo key (row ++ xs) (xs.foldl (insertByBisection below) row) := by
  induction xs with
  | nil =>
      intro row _ hasc
      rw [List.append_nil]
      exact ⟨hasc, .refl row⟩
  | cons x xs ih =>
      intro row h hasc
      rw [List.append_cons] at h
      have hinsert : SortsTo key (row ++ [x]) (insertByBisection below row x) := by
        refine insertByBisection_sorts (h.subset fun y hy => List.mem_append_left xs ?_) hasc
        rcases List.mem_cons.mp hy with rfl | hy
        · exact List.mem_append_right row List.mem_cons_self
        · exact List.mem_append_left [x] hy
      rw [List.append_cons, List.foldl_cons]
      refine hinsert.extend (ih (h.subset fun y hy => ?_) hinsert.ascending)
      rcases List.mem_append.mp hy with hy | hy
      · exact List.mem_append_left xs (hinsert.mem_iff.mp hy)
      · exact List.mem_append_right _ hy

/-! ## Runs -/

/-- The run at the front goes one way throughout. -/
theorem isChain_runLength (below : α → α → Bool) (descending : Bool) (xs : List α) :
    (xs.take (runLength below descending xs)).IsChain fun x y => below y x = descending := by
  induction xs with
  | nil => exact .nil
  | cons x xs ih =>
      cases xs with
      | nil => exact .singleton x
      | cons y zs =>
          rw [runLength]
          split
          · next hxy =>
            rw [List.take_succ_cons]
            cases htake : (y :: zs).take (runLength below descending (y :: zs)) with
            | nil => exact .singleton x
            | cons z rest =>
                have hz : z = y := by
                  have hhead := congrArg List.head? htake
                  rw [List.head?_take, List.head?_cons, List.head?_cons] at hhead
                  split at hhead
                  · cases hhead
                  · exact (Option.some.inj hhead).symm
                rw [htake] at ih
                rw [hz] at ih ⊢
                exact .cons_cons (beq_iff_eq.mp hxy) ih
          · rw [List.take_succ_cons, List.take_zero]
            exact .singleton x

/-- A row without a repeated key may be turned round. -/
theorem SameByKey.turn {xs : List α} (h : xs.Pairwise fun x y => key x ≠ key y) :
    SameByKey key xs.reverse xs := by
  induction xs with
  | nil => exact .refl _
  | cons x xs ih =>
      obtain ⟨hx, hxs⟩ := List.pairwise_cons.mp h
      rw [List.reverse_cons]
      refine ((ih hxs).append (.refl [x])).trans ?_
      refine .swap fun y hy z hz => ?_
      rw [List.mem_singleton.mp hz]
      exact (hx y hy).symm

/-- **The run at the front is brought in order stably.** -/
theorem ascendingRun_sorts {xs : List α} (h : RanksBy below key xs) :
    ∃ n, (ascendingRun below xs).2 = xs.drop n ∧
      SortsTo key (xs.take n) (ascendingRun below xs).1 := by
  refine ⟨runLength below (startsDown below xs) xs, rfl, ?_⟩
  have hchain := isChain_runLength below (startsDown below xs) xs
  unfold ascendingRun
  dsimp only
  revert hchain
  generalize hn : runLength below (startsDown below xs) xs = n
  cases startsDown below xs with
  | true =>
      intro hchain
      have hdescends : (xs.take n).Pairwise fun x y => key y < key x := by
        refine List.isChain_iff_pairwise.mp (List.IsChain.imp_of_mem_imp ?_ hchain)
        exact fun x y hx hy hxy =>
          (h y (List.mem_of_mem_take hy) x (List.mem_of_mem_take hx)).mp hxy
      rw [if_pos rfl]
      constructor
      · exact List.pairwise_reverse.mpr (hdescends.imp fun hxy => hxy.le)
      · exact .turn (hdescends.imp fun hxy => hxy.ne')
  | false =>
      intro hchain
      rw [if_neg Bool.false_ne_true]
      refine ⟨List.isChain_iff_pairwise.mp (List.IsChain.imp_of_mem_imp ?_ hchain), .refl _⟩
      exact fun x y hx hy hxy =>
        (h.not_below (List.mem_of_mem_take hy) (List.mem_of_mem_take hx)).mp hxy

/-- **The extended run at the front is in order**, and the rest stands as it was. -/
theorem extendedRun_sorts (least : Nat) {xs : List α} (h : RanksBy below key xs) :
    ∃ front, front ++ (extendedRun below least xs).2 = xs ∧
      SortsTo key front (extendedRun below least xs).1 := by
  obtain ⟨n, hrest, hrun⟩ := ascendingRun_sorts h
  unfold extendedRun
  revert hrest hrun
  generalize ascendingRun below xs = r
  obtain ⟨run, rest⟩ := r
  rintro rfl hrun
  refine ⟨xs.take n ++ (xs.drop n).take (least - run.length), ?_, ?_⟩
  · show xs.take n ++ (xs.drop n).take (least - run.length)
      ++ (xs.drop n).drop (least - run.length) = xs
    rw [List.append_assoc, List.take_append_drop, List.take_append_drop]
  · refine hrun.extend (foldl_insertByBisection_sorts (h.subset fun y hy => ?_) hrun.ascending)
    rcases List.mem_append.mp hy with hy | hy
    · exact List.mem_of_mem_take (hrun.mem_iff.mp hy)
    · exact List.mem_of_mem_drop (List.mem_of_mem_take hy)

/-! ## Runs that wait -/

/-- The items of the runs that wait, those of the oldest run first. -/
def waitingRow : List (WaitingRun α) → List α
  | []         => []
  | r :: stack => waitingRow stack ++ r.items

/-- Runs that are each in order and hold the items of a row as they stood there. -/
structure Stacked (key : α → κ) (row : List α) (stack : List (WaitingRun α)) : Prop where
  ascending : ∀ r ∈ stack, Ascending key r.items
  same      : SameByKey key (waitingRow stack) row

variable {row : List α} {top second : WaitingRun α} {rest stack : List (WaitingRun α)}

theorem mem_waitingRow {r : WaitingRun α} {x : α} (hr : r ∈ stack) (hx : x ∈ r.items) :
    x ∈ waitingRow stack := by
  induction stack with
  | nil => exact absurd hr List.not_mem_nil
  | cons s stack ih =>
      rcases List.mem_cons.mp hr with rfl | hr
      · exact List.mem_append_right _ hx
      · exact List.mem_append_left _ (ih hr)

/-- Two neighbouring runs, merged, in place of both. -/
theorem Stacked.merge (h : Stacked key row (top :: second :: rest)) (hranks : RanksBy below key row)
    (start power patience : Nat) :
    Stacked key row (⟨start, (mergeRuns below patience second.items top.items).1, power⟩ :: rest) := by
  have hmem : ∀ r ∈ top :: second :: rest, r.items ⊆ row := fun r hr x hx =>
    h.same.mem_iff.mp (mem_waitingRow hr hx)
  have htop := List.mem_cons_self (a := top) (l := second :: rest)
  have hsecond := List.mem_cons_of_mem top (List.mem_cons_self (a := second) (l := rest))
  have hmerged := mergeRuns_sorts
    (hranks.subset (List.append_subset.mpr ⟨hmem second hsecond, hmem top htop⟩))
    (h.ascending second hsecond) (h.ascending top htop) patience
  constructor
  · refine List.forall_mem_cons.mpr ⟨hmerged.ascending, fun r hr => ?_⟩
    exact h.ascending r (List.mem_cons_of_mem top (List.mem_cons_of_mem second hr))
  · refine SameByKey.trans ?_ h.same
    show SameByKey key (waitingRow rest ++ _) (waitingRow rest ++ second.items ++ top.items)
    rw [List.append_assoc]
    exact (SameByKey.refl _).append hmerged.same

/-- A run on top of others, which may be replaced by others with the same row. -/
theorem Stacked.under {others : List (WaitingRun α)} (h : Stacked key row (top :: stack))
    (hothers : Stacked key (waitingRow stack) others) : Stacked key row (top :: others) :=
  ⟨List.forall_mem_cons.mpr ⟨h.ascending top List.mem_cons_self, hothers.ascending⟩,
    (hothers.same.append (.refl top.items)).trans h.same⟩

/-- Merging what is deeper than a boundary keeps the runs stacked. -/
theorem Stacked.collapse (hranks : RanksBy below key row) (power k : Nat) :
    ∀ {stack : List (WaitingRun α)}, Stacked key row stack → ∀ patience,
      Stacked key row (collapse below power k stack patience).1 := by
  induction k with
  | zero => exact fun h patience => h
  | succ k ih =>
      intro stack h patience
      match stack, h with
      | [], h => exact h
      | [r], h => exact h
      | top :: second :: rest, h =>
          rw [collapse_cons]
          split
          · exact ih (h.merge hranks _ _ _) _
          · exact h

/-- **A run that is put on top keeps the runs stacked.** -/
theorem Stacked.pushRun (h : Stacked key row stack) (hranks : RanksBy below key row)
    {items : List α} (hitems : Ascending key items) (length patience : Nat) :
    Stacked key (row ++ items) (pushRun below length items stack patience).1 := by
  unfold LessonVariants.pushRun
  split
  · refine ⟨List.forall_mem_singleton.mpr hitems, ?_⟩
    exact h.same.append (.refl items)
  · next top rest =>
    have hcollapsed := h.collapse hranks (boundaryPower length top items.length)
      (top :: rest).length patience
    dsimp only
    revert hcollapsed
    generalize LessonVariants.collapse below (boundaryPower length top items.length)
      (top :: rest).length (top :: rest) patience = r
    obtain ⟨stack', patience'⟩ := r
    intro hcollapsed
    cases stack' with
    | nil =>
        refine ⟨List.forall_mem_singleton.mpr hitems, ?_⟩
        exact hcollapsed.same.append (.refl items)
    | cons r rest' =>
        obtain ⟨hr, hrest⟩ := List.forall_mem_cons.mp hcollapsed.ascending
        refine ⟨List.forall_mem_cons.mpr ⟨hitems, List.forall_mem_cons.mpr ⟨hr, hrest⟩⟩, ?_⟩
        exact hcollapsed.same.append (.refl items)

/-- **Merging all waiting runs sorts their row.** -/
theorem Stacked.mergeWaiting (hranks : RanksBy below key row) (k : Nat) :
    ∀ {stack : List (WaitingRun α)}, Stacked key row stack → stack.length ≤ k + 1 → ∀ patience,
      SortsTo key row (mergeWaiting below k stack patience) := by
  have hnone : Stacked key row [] → SortsTo key row [] := fun h => ⟨.nil, h.same⟩
  have hone : ∀ {r : WaitingRun α}, Stacked key row [r] → SortsTo key row r.items := fun h =>
    ⟨h.ascending _ List.mem_cons_self, h.same⟩
  induction k with
  | zero =>
      intro stack h hlength patience
      match stack, h, hlength with
      | [], h, _ => exact hnone h
      | [r], h, _ => exact hone h
  | succ k ih =>
      intro stack h hlength patience
      match stack, h, hlength with
      | [], h, _ => exact hnone h
      | [r], h, _ => exact hone h
      | [top, second], h, _ => exact hone (h.merge hranks 0 0 patience)
      | top :: second :: third :: rest, h, hlength =>
          have hlength : (third :: rest).length + 1 ≤ k + 1 := by
            simp only [List.length_cons] at hlength ⊢
            omega
          rw [LessonVariants.mergeWaiting]
          split
          · -- the second and the third run are merged below the topmost one
            have hbelow : Stacked key (waitingRow (second :: third :: rest))
                (second :: third :: rest) :=
              ⟨fun r hr => h.ascending r (List.mem_cons_of_mem top hr), .refl _⟩
            have hranks' : RanksBy below key (waitingRow (second :: third :: rest)) :=
              hranks.subset fun x hx => h.same.mem_iff.mp (List.mem_append_left _ hx)
            exact ih (h.under (hbelow.merge hranks' third.start third.power patience)) hlength _
          · exact ih (h.merge hranks second.start second.power patience) hlength _

/-! ## The sort -/

/-- **Cutting a row into runs and merging them sorts it**, together with the runs that wait. -/
theorem sortRuns_sorts (length least : Nat) (k : Nat) :
    ∀ {xs done : List α} {stack : List (WaitingRun α)}, RanksBy below key (done ++ xs) →
      Stacked key done stack → xs.length ≤ k → ∀ patience,
        SortsTo key (done ++ xs) (sortRuns below length least k xs stack patience) := by
  have hend : ∀ {done : List α} {stack : List (WaitingRun α)}, RanksBy below key (done ++ []) →
      Stacked key done stack → ∀ patience,
        SortsTo key (done ++ []) (mergeWaiting below stack.length stack patience) := by
    intro done stack hranks h patience
    rw [List.append_nil] at hranks ⊢
    exact h.mergeWaiting hranks stack.length (Nat.le_succ _) patience
  induction k with
  | zero =>
      intro xs done stack hranks h hlength patience
      obtain rfl := List.length_eq_zero_iff.mp (Nat.le_zero.mp hlength)
      exact hend hranks h patience
  | succ k ih =>
      intro xs done stack hranks h hlength patience
      cases xs with
      | nil => exact hend hranks h patience
      | cons x xs =>
          have hmem : x :: xs ⊆ done ++ x :: xs := List.subset_append_right _ _
          have hshorter := extendedRun_length below least (List.cons_ne_nil x xs)
          obtain ⟨front, hsplit, hrun⟩ := extendedRun_sorts least (hranks.subset hmem)
          rw [sortRuns, if_neg (by simp)]
          dsimp only
          revert hsplit hrun hshorter
          generalize extendedRun below least (x :: xs) = r
          obtain ⟨run, rest⟩ := r
          intro hshorter hsplit hrun
          have hpushed := h.pushRun (hranks.subset (List.subset_append_left _ _)) hrun.ascending
            length patience
          -- the run takes the place of the items that it was made from
          have hplaced : SameByKey key (done ++ run ++ rest) (done ++ x :: xs) := by
            rw [← hsplit, List.append_assoc]
            exact (SameByKey.refl done).append (hrun.same.append (.refl rest))
          have hsorted := ih (hranks.subset fun y hy => hplaced.mem_iff.mp hy) hpushed
            (by dsimp only at hshorter; omega)
            (LessonVariants.pushRun below length run stack patience).2
          exact ⟨hsorted.ascending, hsorted.same.trans hplaced⟩

/-- **Sorting by runs sorts stably.** -/
theorem sortByRuns_sorts {xs : List α} (h : RanksBy below key xs) :
    SortsTo key xs (sortByRuns below xs) :=
  have hstart : Stacked key [] ([] : List (WaitingRun α)) := ⟨List.forall_mem_nil _, .refl []⟩
  sortRuns_sorts xs.length (leastRun xs.length) xs.length h hstart (Nat.le_refl _) longStretch

end LessonVariants
