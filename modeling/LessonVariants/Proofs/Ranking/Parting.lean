import LessonVariants.Ranking.Merge
import Mathlib.Data.List.Basic
import Mathlib.Order.Lattice

/-! # Rows in order, and the places that part them

    Items are ordered by keys.  A row is sorted stably if its keys ascend and the items of each key
    stand as they did before (`SortsTo`).  Bisection finds the place that parts a row into items without
    a property and items with it (`firstWith_parts`), and so does a search from a hint by doubling steps
    (`boundary_parts`). -/

namespace LessonVariants

variable {α κ : Type} [LinearOrder κ]

/-! ## Rows in order -/

/-- Keys that ascend, or stay as they are. -/
def Ascending (key : α → κ) (xs : List α) : Prop :=
  xs.Pairwise fun x y => key x ≤ key y

/-- Two rows with the same items of each key, in the same order. -/
def SameByKey (key : α → κ) (xs ys : List α) : Prop :=
  ∀ k, xs.filter (fun x => key x = k) = ys.filter (fun x => key x = k)

/-- A row sorted stably: its keys ascend, and items of one key stand as they did. -/
structure SortsTo (key : α → κ) (xs ys : List α) : Prop where
  ascending : Ascending key ys
  same      : SameByKey key ys xs

/-- Among the items of a row, being below is having the smaller key. -/
def RanksBy (below : α → α → Bool) (key : α → κ) (xs : List α) : Prop :=
  ∀ x ∈ xs, ∀ y ∈ xs, (below x y = true ↔ key x < key y)

variable {key : α → κ} {xs ys zs vs : List α}

namespace SameByKey

theorem refl (xs : List α) : SameByKey key xs xs := fun _ => rfl

theorem symm (h : SameByKey key xs ys) : SameByKey key ys xs := fun k => (h k).symm

theorem trans (h : SameByKey key xs ys) (h' : SameByKey key ys zs) : SameByKey key xs zs :=
  fun k => (h k).trans (h' k)

theorem append (h : SameByKey key xs ys) (h' : SameByKey key zs vs) :
    SameByKey key (xs ++ zs) (ys ++ vs) := by
  intro k
  rw [List.filter_append, List.filter_append, h k, h' k]

theorem reverse (h : SameByKey key xs ys) : SameByKey key xs.reverse ys.reverse := by
  intro k
  rw [List.filter_reverse, List.filter_reverse, h k]

/-- Rows without a common key may change places. -/
theorem swap (h : ∀ x ∈ xs, ∀ y ∈ ys, key x ≠ key y) : SameByKey key (xs ++ ys) (ys ++ xs) := by
  intro k
  rw [List.filter_append, List.filter_append]
  cases hxs : xs.filter (fun x => key x = k) with
  | nil => rw [List.nil_append, List.append_nil]
  | cons x rest =>
      have hx := List.mem_filter.mp (hxs ▸ List.mem_cons_self (a := x) (l := rest))
      have hys : ys.filter (fun y => key y = k) = [] := by
        refine List.filter_eq_nil_iff.mpr fun y hy hk => h x hx.1 y hy ?_
        rw [of_decide_eq_true hx.2, of_decide_eq_true hk]
      rw [hys, List.nil_append, List.append_nil]

theorem mem_iff (h : SameByKey key xs ys) {x : α} : x ∈ xs ↔ x ∈ ys := by
  have hx := congrArg (x ∈ ·) (h (key x))
  simpa only [List.mem_filter, decide_true, and_true, eq_iff_iff] using hx

end SameByKey

/-- Keys that ascend in two rows ascend in both together, if none of the first exceeds one of the
    second. -/
theorem Ascending.append (hxs : Ascending key xs) (hys : Ascending key ys)
    (h : ∀ x ∈ xs, ∀ y ∈ ys, key x ≤ key y) : Ascending key (xs ++ ys) :=
  List.pairwise_append.mpr ⟨hxs, hys, h⟩

/-- Keys that ascend do so before a place and from it on, and not back across it. -/
theorem Ascending.split (h : Ascending key xs) (n : Nat) :
    Ascending key (xs.take n) ∧ Ascending key (xs.drop n) ∧
      ∀ x ∈ xs.take n, ∀ y ∈ xs.drop n, key x ≤ key y := by
  refine List.pairwise_append.mp ?_
  rw [List.take_append_drop]
  exact h

/-- The first of ascending keys is the least. -/
theorem Ascending.head_le (h : Ascending key xs) {x : α} {rest : List α} (hxs : xs = x :: rest) :
    ∀ y ∈ xs, key x ≤ key y := by
  subst hxs
  intro y hy
  rcases List.mem_cons.mp hy with rfl | hy
  · exact le_refl _
  · exact List.rel_of_pairwise_cons h hy

theorem Ascending.le_getLast (h : Ascending key xs) {last : α} (hlast : xs.getLast? = some last) :
    ∀ x ∈ xs, key x ≤ key last := by
  obtain ⟨front, rfl⟩ := List.getLast?_eq_some_iff.mp hlast
  intro x hx
  rcases List.mem_append.mp hx with hfront | hend
  · exact (List.pairwise_append.mp h).2.2 x hfront last List.mem_cons_self
  · rw [List.mem_singleton.mp hend]

theorem SortsTo.mem_iff (h : SortsTo key xs ys) {x : α} : x ∈ ys ↔ x ∈ xs :=
  h.same.mem_iff

theorem RanksBy.subset {below : α → α → Bool} (h : RanksBy below key xs) (hsub : ys ⊆ xs) :
    RanksBy below key ys :=
  fun x hx y hy => h x (hsub hx) y (hsub hy)

theorem RanksBy.not_below {below : α → α → Bool} (h : RanksBy below key xs) {x y : α} (hx : x ∈ xs)
    (hy : y ∈ xs) : below x y = false ↔ key y ≤ key x := by
  rw [← Bool.not_eq_true, h x hx y hy, not_lt]

/-! ## Places that part a row -/

/-- A property that, once an item has it, all later items have. -/
def Rising (p : α → Bool) (row : List α) : Prop :=
  row.Pairwise fun x y => p x = true → p y = true

/-- Where the items with a property begin lies between two places. -/
structure BeginsBetween (p : α → Bool) (row : List α) (low high : Nat) : Prop where
  le     : low ≤ high
  inside : high ≤ row.length
  before : ∀ i x, i < low → row[i]? = some x → p x = false
  after  : ∀ i x, high ≤ i → row[i]? = some x → p x = true

/-- The place that parts a row: no item before it has the property, and every item from it on has. -/
def Parts (p : α → Bool) (row : List α) (place : Nat) : Prop :=
  BeginsBetween p row place place

variable {p : α → Bool} {row : List α} {low high : Nat}

theorem Rising.of_get (h : Rising p row) {i j : Nat} {x y : α} (hij : i ≤ j) (hx : row[i]? = some x)
    (hy : row[j]? = some y) (hp : p x = true) : p y = true := by
  obtain ⟨hi, rfl⟩ := List.getElem?_eq_some_iff.mp hx
  obtain ⟨hj, rfl⟩ := List.getElem?_eq_some_iff.mp hy
  rcases Nat.lt_or_eq_of_le hij with hlt | rfl
  · exact List.pairwise_iff_getElem.mp h i j hi hj hlt hp
  · exact hp

/-- An item without the property rules out the places up to it. -/
theorem BeginsBetween.raise (h : BeginsBetween p row low high) (hrising : Rising p row) {i : Nat}
    {x : α} (hi : i < high) (hx : row[i]? = some x) (hp : p x = false) :
    BeginsBetween p row (i + 1) high := by
  refine ⟨hi, h.inside, fun j y hj hy => ?_, h.after⟩
  cases hpy : p y with
  | false => rfl
  | true => exact (hrising.of_get (Nat.le_of_lt_succ hj) hy hx hpy).symm.trans hp

/-- An item with the property rules out the places behind it. -/
theorem BeginsBetween.lower (h : BeginsBetween p row low high) (hrising : Rising p row) {i : Nat}
    {x : α} (hi : low ≤ i) (hx : row[i]? = some x) (hp : p x = true) :
    BeginsBetween p row low i := by
  obtain ⟨hlength, -⟩ := List.getElem?_eq_some_iff.mp hx
  exact ⟨hi, Nat.le_of_lt hlength, h.before, fun j y hj hy => hrising.of_get hj hx hy hp⟩

/-- **Bisection finds the place that parts a row.** -/
theorem firstWith_parts (hrising : Rising p row) :
    ∀ {n low high : Nat}, BeginsBetween p row low high → high - low ≤ n →
      Parts p row (firstWith p row.toArray n low high) := by
  intro n
  induction n with
  | zero =>
      intro low high h hn
      obtain rfl : low = high := by have := h.le; omega
      exact h
  | succ n ih =>
      intro low high h hn
      rw [firstWith]
      by_cases hlt : low < high
      · have hmiddle : low + (high - low) / 2 < row.length := by have := h.inside; omega
        have hget := List.getElem?_eq_getElem hmiddle
        rw [if_pos hlt]
        dsimp only
        rw [List.getElem?_toArray, hget]
        cases hp : p row[low + (high - low) / 2] with
        | true =>
            rw [if_pos (by exact hp)]
            exact ih (h.lower hrising (by omega) hget hp) (by omega)
        | false =>
            rw [if_neg (by simp [hp])]
            exact ih (h.raise hrising (by omega) hget hp) (by omega)
      · obtain rfl : low = high := by have := h.le; omega
        rw [if_neg hlt]
        exact h

/-- Doubling steps end with a step that failed the test, or at the limit; the step before passed it. -/
theorem doubling_spec (holds : Nat → Bool) (limit n : Nat) :
    ∀ {last step : Nat}, limit ≤ step + n → last < step → last < limit → holds last = true →
      let r := doubling holds limit n last step
      r.1 < r.2 ∧ holds r.1 = true ∧ (r.2 = limit ∨ r.2 < limit ∧ holds r.2 = false) := by
  induction n with
  | zero =>
      intro last step hn hstep hlimit hholds
      rw [doubling]
      exact ⟨Nat.lt_min.mpr ⟨hstep, hlimit⟩, hholds, .inl (Nat.min_eq_right hn)⟩
  | succ n ih =>
      intro last step hn hstep hlimit hholds
      rw [doubling]
      by_cases hgo : (step < limit && holds step) = true
      · rw [if_pos hgo]
        simp only [Bool.and_eq_true, decide_eq_true_eq] at hgo
        exact ih (by omega) (by omega) hgo.1 hgo.2
      · rw [if_neg hgo]
        refine ⟨Nat.lt_min.mpr ⟨hstep, hlimit⟩, hholds, ?_⟩
        rcases Nat.lt_or_ge step limit with hlt | hge
        · refine .inr ?_
          simp only [Bool.and_eq_true, decide_eq_true_eq, hlt, true_and, Bool.not_eq_true] at hgo
          show min step limit < limit ∧ holds (min step limit) = false
          rw [Nat.min_eq_left (Nat.le_of_lt hlt)]
          exact ⟨hlt, hgo⟩
        · exact .inl (Nat.min_eq_right hge)

/-- **The search from a hint finds the place that parts a row.** -/
theorem boundary_parts (hrising : Rising p row) {hint : Nat} (hhint : hint < row.length) :
    Parts p row (boundary p row.toArray hint) := by
  have hget := List.getElem?_eq_getElem hhint
  -- an index of the row has an item, whose property is the test of the steps
  have hitem : ∀ {i : Nat} {b : Bool}, i < row.length → (row.toArray[i]?).any p = b →
      ∃ x, row[i]? = some x ∧ p x = b := by
    intro i b hi hb
    rw [List.getElem?_toArray, List.getElem?_eq_getElem hi] at hb
    exact ⟨_, List.getElem?_eq_getElem hi, hb⟩
  have hwhole : BeginsBetween p row 0 row.length :=
    ⟨Nat.zero_le _, Nat.le_refl _, fun i x hi => absurd hi (Nat.not_lt_zero i),
      fun i x hi hx => absurd (List.getElem?_eq_some_iff.mp hx).1 (Nat.not_lt.mpr hi)⟩
  rw [boundary, List.size_toArray]
  cases hp : (row.toArray[hint]?).any p with
  | true =>
      rw [if_pos rfl]
      obtain ⟨hstep, hlast, hend⟩ := doubling_spec (fun k => (row.toArray[hint - k]?).any p)
        (hint + 1) row.length (by omega) Nat.one_pos (Nat.succ_pos hint) hp
      revert hstep hlast hend
      generalize doubling (fun k => (row.toArray[hint - k]?).any p) (hint + 1) row.length 0 1 = r
      intro hstep hlast hend
      dsimp only
      obtain ⟨x, hx, hpx⟩ := hitem (i := hint - r.1) (by omega) hlast
      have hhigh := hwhole.lower hrising (Nat.zero_le _) hx hpx
      rcases hend with hlimit | ⟨hlimit, hstop⟩
      · refine firstWith_parts hrising ?_ (by omega)
        rw [hlimit, Nat.sub_self]
        exact hhigh
      · obtain ⟨y, hy, hpy⟩ := hitem (i := hint - r.2) (by omega) hstop
        have hlow := hhigh.raise hrising (by omega) hy hpy
        rw [show hint + 1 - r.2 = hint - r.2 + 1 by omega]
        exact firstWith_parts hrising hlow (by omega)
  | false =>
      rw [if_neg Bool.false_ne_true]
      obtain ⟨hstep, hlast, hend⟩ := doubling_spec (fun k => !(row.toArray[hint + k]?).any p)
        (row.length - hint) row.length (by omega) Nat.one_pos (by omega) (congrArg (!·) hp)
      revert hstep hlast hend
      generalize doubling (fun k => !(row.toArray[hint + k]?).any p) (row.length - hint) row.length 0 1
        = r
      intro hstep hlast hend
      dsimp only
      have hinside : r.2 ≤ row.length - hint := by omega
      obtain ⟨x, hx, hpx⟩ := hitem (i := hint + r.1) (by omega) (by simpa using hlast)
      rcases hend with hlimit | ⟨hlimit, hstop⟩
      · have hlow := hwhole.raise hrising (by omega) hx hpx
        rw [show hint + r.2 = row.length by omega]
        exact firstWith_parts hrising hlow (by omega)
      · obtain ⟨y, hy, hpy⟩ := hitem (i := hint + r.2) (by omega) (by simpa using hstop)
        have hhigh := hwhole.lower hrising (Nat.zero_le _) hy hpy
        exact firstWith_parts hrising (hhigh.raise hrising (by omega) hx hpx) (by omega)

namespace Parts

variable {n : Nat}

theorem take (h : Parts p row n) : ∀ x ∈ row.take n, p x = false := by
  intro x hx
  obtain ⟨i, hi, rfl⟩ := List.mem_take_iff_getElem.mp hx
  exact h.before i _ (by omega) (List.getElem?_eq_getElem (by omega))

theorem drop (h : Parts p row n) : ∀ x ∈ row.drop n, p x = true := by
  intro x hx
  obtain ⟨i, hi, rfl⟩ := List.mem_drop_iff_getElem.mp hx
  exact h.after (n + i) _ (Nat.le_add_right n i) (List.getElem?_eq_getElem (by omega))

/-- A place that parts a row backwards, for the items without the property. -/
theorem reverse (h : Parts p row.reverse n) : Parts (fun x => !p x) row (row.length - n) := by
  have hinside : n ≤ row.length := by simpa using h.inside
  refine ⟨Nat.le_refl _, Nat.sub_le _ _, fun i x hi hx => ?_, fun i x hi hx => ?_⟩
  · have hlength : i < row.length := (List.getElem?_eq_some_iff.mp hx).1
    refine congrArg (!·) (h.after (row.length - 1 - i) x (by omega) ?_)
    rw [List.getElem?_reverse (by omega), ← hx]
    congr 1
    omega
  · have hlength : i < row.length := (List.getElem?_eq_some_iff.mp hx).1
    refine congrArg (!·) (h.before (row.length - 1 - i) x (by omega) ?_)
    rw [List.getElem?_reverse (by omega), ← hx]
    congr 1
    omega

end Parts

end LessonVariants
