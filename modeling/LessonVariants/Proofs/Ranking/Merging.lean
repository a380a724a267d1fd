import LessonVariants.Proofs.Ranking.Parting
import Mathlib.Order.OrderDual

/-! # Merging sorts stably

    A contest is fair if it lets the smaller key win, the first row's item between equal ones, and if
    the stretches that it finds are those that come before the head of the other row
    (`Contest.Fair`).  In a fair contest every step of a merge leaves what has been taken in order and
    in front of what is left (`Merge.Orderly`), whether it takes single items or stretches.  A contest
    from the backs is a fair one for the keys turned round.  So two ascending runs are merged stably
    (`mergeRuns_sorts`). -/

namespace LessonVariants

variable {α κ : Type} [LinearOrder κ]

/-! ## Fair contests -/

/-- A contest that merges rows of the given items by their keys. -/
structure Contest.Fair (c : Contest α) (key : α → κ) (items : List α) : Prop where
  wins   : ∀ x ∈ items, ∀ y ∈ items, (c.secondWins x y = true ↔ key y < key x)
  first  : ∀ xs ⊆ items, ∀ y ∈ items, xs ≠ [] → Ascending key xs →
    Parts (fun x => decide (key y < key x)) xs (c.firstStretch xs y)
  second : ∀ ys ⊆ items, ∀ x ∈ items, ys ≠ [] → Ascending key ys →
    Parts (fun y => decide (key x ≤ key y)) ys (c.secondStretch ys x)

/-- Keys that ascend rise above a bound once and for all. -/
theorem Ascending.rising {key : α → κ} {row : List α} {p : α → Bool} (h : Ascending key row)
    (hp : ∀ x ∈ row, ∀ y ∈ row, key x ≤ key y → p x = true → p y = true) : Rising p row :=
  List.Pairwise.imp_of_mem (fun hx hy hxy => hp _ hx _ hy hxy) h

/-- Parts by a property are parts by one that the items have alike. -/
theorem Parts.congr {p q : α → Bool} {row : List α} {n : Nat} (h : Parts p row n)
    (hpq : ∀ x ∈ row, p x = q x) : Parts q row n :=
  ⟨h.le, h.inside, fun i x hi hx => (hpq x (List.mem_of_getElem? hx)).symm.trans (h.before i x hi hx),
    fun i x hi hx => (hpq x (List.mem_of_getElem? hx)).symm.trans (h.after i x hi hx)⟩

section

variable {below : α → α → Bool} {key : α → κ} {items xs : List α}

theorem RanksBy.below_eq (h : RanksBy below key items) {x y : α} (hx : x ∈ items) (hy : y ∈ items) :
    below x y = decide (key x < key y) := by
  rw [Bool.eq_iff_iff, h x hx y hy, decide_eq_true_iff]

theorem RanksBy.not_below_eq (h : RanksBy below key items) {x y : α} (hx : x ∈ items)
    (hy : y ∈ items) : (!below x y) = decide (key y ≤ key x) := by
  rw [Bool.eq_iff_iff, Bool.not_eq_true', h.not_below hx hy, decide_eq_true_iff]

/-- Where the items above a bound begin, found from a hint. -/
theorem boundary_above (h : RanksBy below key items) (hxs : xs ⊆ items) {y : α} (hy : y ∈ items)
    (hasc : Ascending key xs) {hint : Nat} (hhint : hint < xs.length) :
    Parts (fun x => decide (key y < key x)) xs (boundary (fun x => below y x) xs.toArray hint) := by
  have hp : ∀ x ∈ xs, below y x = decide (key y < key x) := fun x hx => h.below_eq hy (hxs hx)
  refine (boundary_parts (hasc.rising fun x hx z hz hxz hyx => ?_) hhint).congr hp
  rw [hp x hx, decide_eq_true_iff] at hyx
  rw [hp z hz, decide_eq_true_iff]
  exact lt_of_lt_of_le hyx hxz

/-- Where the items that are not below a bound begin, found from a hint. -/
theorem boundary_from (h : RanksBy below key items) (hxs : xs ⊆ items) {x : α} (hx : x ∈ items)
    (hasc : Ascending key xs) {hint : Nat} (hhint : hint < xs.length) :
    Parts (fun y => decide (key x ≤ key y)) xs (boundary (fun y => !below y x) xs.toArray hint) := by
  have hp : ∀ y ∈ xs, (!below y x) = decide (key x ≤ key y) := fun y hy =>
    h.not_below_eq (hxs hy) hx
  refine (boundary_parts (hasc.rising fun y hy z hz hyz hxy => ?_) hhint).congr hp
  rw [hp y hy, decide_eq_true_iff] at hxy
  rw [hp z hz, decide_eq_true_iff]
  exact le_trans hxy hyz

/-- The contest from the fronts is fair. -/
theorem Contest.ascending_fair (h : RanksBy below key items) :
    (Contest.ascending below).Fair key items where
  wins x hx y hy := h y hy x hx
  first _ hxs _ hy hne hasc := boundary_above h hxs hy hasc (List.length_pos_iff.mpr hne)
  second _ hys _ hx hne hasc := boundary_from h hys hx hasc (List.length_pos_iff.mpr hne)

/-- Keys that ascend when they are turned round descend. -/
theorem ascending_reverse_toDual :
    Ascending (fun x => OrderDual.toDual (key x)) xs ↔ Ascending key xs.reverse :=
  List.pairwise_reverse.symm

/-- The contest from the backs is fair for the keys turned round. -/
theorem Contest.descending_fair (h : RanksBy below key items) :
    (Contest.descending below).Fair (fun x => OrderDual.toDual (key x)) items where
  wins x hx y hy := h x hx y hy
  first xs hxs y hy hne hasc := by
    have hlength : xs.length - 1 < xs.reverse.length := by
      rw [List.length_reverse]
      exact Nat.sub_one_lt_of_lt (List.length_pos_iff.mpr hne)
    have hmem : xs.reverse ⊆ items := fun x hx => hxs (List.mem_reverse.mp hx)
    have hback := boundary_from h hmem hy (ascending_reverse_toDual.mp hasc) hlength
    refine hback.reverse.congr fun x hx => ?_
    rw [← decide_not, decide_eq_decide, not_le]
    exact Iff.rfl
  second ys hys x hx hne hasc := by
    have hlength : ys.length - 1 < ys.reverse.length := by
      rw [List.length_reverse]
      exact Nat.sub_one_lt_of_lt (List.length_pos_iff.mpr hne)
    have hmem : ys.reverse ⊆ items := fun y hy => hys (List.mem_reverse.mp hy)
    have hback := boundary_above h hmem hx (ascending_reverse_toDual.mp hasc) hlength
    refine hback.reverse.congr fun y hy => ?_
    rw [← decide_not, decide_eq_decide, not_lt]
    exact Iff.rfl

end

/-! ## A merge under way -/

namespace Merge

/-- A merge under way that is going to be stable: what has been taken is in order, nothing that is
    left belongs before it, the last item of the first row exceeds the second row, and the items of
    each key stand as they did. -/
structure Orderly (key : α → κ) (row : List α) (m : Merge α) : Prop where
  taken   : Ascending key m.taken.reverse
  first   : Ascending key m.first
  second  : Ascending key m.second
  settled : ∀ t ∈ m.taken, ∀ x ∈ m.first ++ m.second, key t ≤ key x
  last    : ∃ x, m.first.getLast? = some x ∧ ∀ y ∈ m.second, key y < key x
  same    : SameByKey key (m.taken.reverse ++ (m.first ++ m.second)) row

variable {key : α → κ} {row : List α} {m : Merge α}

theorem Orderly.withPatience (h : m.Orderly key row) (p : Nat) :
    Orderly key row { m with patience := p } :=
  ⟨h.taken, h.first, h.second, h.settled, h.last, h.same⟩

theorem Orderly.first_mem (h : m.Orderly key row) {x : α} (hx : x ∈ m.first) : x ∈ row :=
  h.same.mem_iff.mp (List.mem_append_right _ (List.mem_append_left _ hx))

theorem Orderly.second_mem (h : m.Orderly key row) {y : α} (hy : y ∈ m.second) : y ∈ row :=
  h.same.mem_iff.mp (List.mem_append_right _ (List.mem_append_right _ hy))

/-- Items of the first row that the second row does not undercut may be taken, short of the last. -/
theorem Orderly.takeFirst (h : m.Orderly key row) {n : Nat} (hn : n < m.first.length)
    (hle : ∀ x ∈ m.first.take n, ∀ y ∈ m.second, key x ≤ key y) : (m.takeFirst n).Orderly key row := by
  obtain ⟨htake, hdrop, hcross⟩ := h.first.split n
  obtain ⟨last, hlast, habove⟩ := h.last
  constructor
  · show Ascending key ((m.first.take n).reverse ++ m.taken).reverse
    rw [List.reverse_append, List.reverse_reverse]
    refine h.taken.append htake fun t ht x hx => ?_
    exact h.settled t (List.mem_reverse.mp ht) x (List.mem_append_left _ (List.mem_of_mem_take hx))
  · exact hdrop
  · exact h.second
  · intro t ht x hx
    rcases List.mem_append.mp ht with hnew | hold
    · have hnew := List.mem_reverse.mp hnew
      rcases List.mem_append.mp hx with hx | hx
      · exact hcross t hnew x hx
      · exact hle t hnew x hx
    · refine h.settled t hold x ?_
      rcases List.mem_append.mp hx with hx | hx
      · exact List.mem_append_left _ (List.mem_of_mem_drop hx)
      · exact List.mem_append_right _ hx
  · refine ⟨last, ?_, habove⟩
    show (m.first.drop n).getLast? = some last
    rw [List.getLast?_drop, if_neg (Nat.not_le.mpr hn)]
    exact hlast
  · show SameByKey key (((m.first.take n).reverse ++ m.taken).reverse
      ++ (m.first.drop n ++ m.second)) row
    rw [List.reverse_append, List.reverse_reverse, List.append_assoc,
      ← List.append_assoc (m.first.take n), List.take_append_drop]
    exact h.same

/-- Items of the second row that lie below the first row may be taken. -/
theorem Orderly.takeSecond (h : m.Orderly key row) {n : Nat}
    (hlt : ∀ y ∈ m.second.take n, ∀ x ∈ m.first, key y < key x) :
    (m.takeSecond n).Orderly key row := by
  obtain ⟨htake, hdrop, hcross⟩ := h.second.split n
  obtain ⟨last, hlast, habove⟩ := h.last
  constructor
  · show Ascending key ((m.second.take n).reverse ++ m.taken).reverse
    rw [List.reverse_append, List.reverse_reverse]
    refine h.taken.append htake fun t ht y hy => ?_
    exact h.settled t (List.mem_reverse.mp ht) y (List.mem_append_right _ (List.mem_of_mem_take hy))
  · exact h.first
  · exact hdrop
  · intro t ht x hx
    rcases List.mem_append.mp ht with hnew | hold
    · have hnew := List.mem_reverse.mp hnew
      rcases List.mem_append.mp hx with hx | hx
      · exact (hlt t hnew x hx).le
      · exact hcross t hnew x hx
    · refine h.settled t hold x ?_
      rcases List.mem_append.mp hx with hx | hx
      · exact List.mem_append_left _ hx
      · exact List.mem_append_right _ (List.mem_of_mem_drop hx)
  · exact ⟨last, hlast, fun y hy => habove y (List.mem_of_mem_drop hy)⟩
  · show SameByKey key (((m.second.take n).reverse ++ m.taken).reverse
      ++ (m.first ++ m.second.drop n)) row
    -- what is taken passes the first row, with which it has no key in common
    have hpass : SameByKey key (m.second.take n ++ m.first) (m.first ++ m.second.take n) :=
      .swap fun y hy x hx => (hlt y hy x hx).ne
    refine SameByKey.trans ?_ h.same
    rw [List.reverse_append, List.reverse_reverse, List.append_assoc,
      ← List.append_assoc (m.second.take n)]
    refine (SameByKey.refl _).append ?_
    refine (hpass.append (SameByKey.refl (m.second.drop n))).trans ?_
    rw [List.append_assoc, List.take_append_drop]
    exact .refl _

/-- **A merge that is over has sorted its row stably.** -/
theorem Orderly.result (h : m.Orderly key row) (hover : m.isOver = true) :
    SortsTo key row m.result := by
  obtain ⟨last, hlast, habove⟩ := h.last
  -- what is left of the second row lies below what is left of the first, if both rows have a rest
  have hbelow : ∀ y ∈ m.second, ∀ x ∈ m.first, key y < key x := by
    intro y hy x hx
    rw [isOver, Bool.or_eq_true, List.isEmpty_iff, decide_eq_true_iff] at hover
    rcases hover with hnone | hone
    · rw [hnone] at hy
      exact absurd hy List.not_mem_nil
    · have hsingle : m.first = [last] := by
        cases hfirst : m.first with
        | nil => rw [hfirst] at hx; exact absurd hx List.not_mem_nil
        | cons z zs =>
            rw [hfirst] at hone hlast
            obtain rfl : zs = [] := List.length_eq_zero_iff.mp (by simpa using hone)
            exact congrArg (· :: []) (Option.some.inj hlast)
      rw [hsingle, List.mem_singleton] at hx
      rw [hx]
      exact habove y hy
  constructor
  · refine h.taken.append (h.second.append h.first fun y hy x hx => (hbelow y hy x hx).le) ?_
    intro t ht x hx
    refine h.settled t (List.mem_reverse.mp ht) x ?_
    exact List.mem_append.mpr (List.mem_append.mp hx).symm
  · refine SameByKey.trans ?_ h.same
    exact (SameByKey.refl _).append (.swap fun y hy x hx => (hbelow y hy x hx).ne)

/-- The number of items that are left. -/
def left (m : Merge α) : Nat :=
  m.first.length + m.second.length

theorem Orderly.first_ne_nil (h : m.Orderly key row) : m.first ≠ [] := by
  obtain ⟨x, hx, -⟩ := h.last
  rintro hnil
  rw [hnil] at hx
  cases hx

/-- As long as a merge is not over, both rows have a rest. -/
theorem heads_of_not_over (hover : m.isOver = false) :
    (∃ x xs, m.first = x :: xs ∧ xs ≠ []) ∧ ∃ y ys, m.second = y :: ys := by
  rw [isOver, Bool.or_eq_false_iff, decide_eq_false_iff_not, List.isEmpty_eq_false_iff] at hover
  obtain ⟨hsecond, hfirst⟩ := hover
  refine ⟨?_, List.exists_cons_of_ne_nil hsecond⟩
  cases h : m.first with
  | nil => rw [h] at hfirst; exact absurd (Nat.zero_le 1) hfirst
  | cons x xs =>
      refine ⟨x, xs, rfl, ?_⟩
      rintro rfl
      rw [h] at hfirst
      exact hfirst (Nat.le_refl 1)

/-- What an item of the first row does that the head of the second does not undercut. -/
theorem Orderly.takeHead (h : m.Orderly key row) {x y : α} {xs ys : List α}
    (hfirst : m.first = x :: xs) (hxs : xs ≠ []) (hsecond : m.second = y :: ys)
    (hle : key x ≤ key y) : (m.takeFirst 1).Orderly key row := by
  refine h.takeFirst ?_ fun z hz w hw => ?_
  · rw [hfirst, List.length_cons]
    have := List.length_pos_iff.mpr hxs
    omega
  · rw [hfirst, List.take_succ_cons, List.take_zero, List.mem_singleton] at hz
    rw [hz]
    exact hle.trans (h.second.head_le hsecond w hw)

/-- The head of the second row may be taken if it lies below that of the first. -/
theorem Orderly.takeOther (h : m.Orderly key row) {x y : α} {xs ys : List α}
    (hfirst : m.first = x :: xs) (hsecond : m.second = y :: ys) (hlt : key y < key x) :
    (m.takeSecond 1).Orderly key row := by
  refine h.takeSecond fun z hz w hw => ?_
  rw [hsecond, List.take_succ_cons, List.take_zero, List.mem_singleton] at hz
  rw [hz]
  exact lt_of_lt_of_le hlt (h.first.head_le hfirst w hw)

variable {c : Contest α}

/-- **A stretch of the first row and the head behind it are taken in order.** -/
theorem Orderly.stretchFirst (h : m.Orderly key row) (hc : c.Fair key row)
    (hover : m.isOver = false) :
    (stretchFirst c m).2.Orderly key row ∧
      ((stretchFirst c m).2.isOver = true ∨ (stretchFirst c m).2.left < m.left) := by
  obtain ⟨-, y, ys, hsecond⟩ := heads_of_not_over hover
  have hy : y ∈ m.second := hsecond ▸ List.mem_cons_self
  have hparts := hc.first m.first (fun x hx => h.first_mem hx) y (h.second_mem hy) h.first_ne_nil
    h.first
  rw [Merge.stretchFirst]
  simp only [hsecond]
  generalize c.firstStretch m.first y = n at hparts
  have hbefore : ∀ x ∈ m.first.take n, key x ≤ key y := fun x hx =>
    not_lt.mp (of_decide_eq_false (hparts.take x hx))
  have hbehind : ∀ x ∈ m.first.drop n, key y < key x := fun x hx =>
    of_decide_eq_true (hparts.drop x hx)
  have hn : n < m.first.length := by
    obtain ⟨last, hlast, habove⟩ := h.last
    refine Nat.lt_of_not_le fun hle => ?_
    have hmem : last ∈ m.first.take n := by
      rw [List.take_of_length_le hle]
      exact List.mem_of_getLast? hlast
    exact absurd (habove y hy) (not_lt.mpr (hbefore last hmem))
  have htook := h.takeFirst hn fun x hx z hz =>
    (hbefore x hx).trans (h.second.head_le hsecond z hz)
  cases hdone : (m.takeFirst n).isOver with
  | true => exact ⟨htook, .inl hdone⟩
  | false =>
      refine ⟨htook.takeSecond fun z hz x hx => ?_, .inr ?_⟩
      · have hz : z ∈ (m.second.take 1) := hz
        rw [hsecond, List.take_succ_cons, List.take_zero, List.mem_singleton] at hz
        rw [hz]
        exact hbehind x hx
      · show (m.first.drop n).length + (m.second.drop 1).length < m.first.length + m.second.length
        rw [List.length_drop, List.length_drop, hsecond, List.length_cons]
        omega

/-- **A stretch of the second row and the head behind it are taken in order.** -/
theorem Orderly.stretchSecond (h : m.Orderly key row) (hc : c.Fair key row)
    (hover : m.isOver = false) :
    (stretchSecond c m).2.Orderly key row ∧
      ((stretchSecond c m).2.isOver = true ∨ (stretchSecond c m).2.left < m.left) := by
  obtain ⟨⟨x, xs, hfirst, hxs⟩, y, ys, hsecond⟩ := heads_of_not_over hover
  have hx : x ∈ m.first := hfirst ▸ List.mem_cons_self
  have hparts := hc.second m.second (fun y hy => h.second_mem hy) x (h.first_mem hx)
    (hsecond ▸ List.cons_ne_nil y ys) h.second
  rw [Merge.stretchSecond]
  simp only [hfirst]
  generalize c.secondStretch m.second x = n at hparts
  have hbefore : ∀ z ∈ m.second.take n, key z < key x := fun z hz =>
    not_le.mp (of_decide_eq_false (hparts.take z hz))
  have hbehind : ∀ z ∈ m.second.drop n, key x ≤ key z := fun z hz =>
    of_decide_eq_true (hparts.drop z hz)
  have htook := h.takeSecond fun z hz w hw =>
    lt_of_lt_of_le (hbefore z hz) (h.first.head_le hfirst w hw)
  cases hdone : (m.takeSecond n).isOver with
  | true => exact ⟨htook, .inl hdone⟩
  | false =>
      refine ⟨htook.takeFirst ?_ fun z hz w hw => ?_, .inr ?_⟩
      · show 1 < m.first.length
        rw [hfirst, List.length_cons]
        have := List.length_pos_iff.mpr hxs
        omega
      · have hz : z ∈ m.first.take 1 := hz
        rw [hfirst, List.take_succ_cons, List.take_zero, List.mem_singleton] at hz
        rw [hz]
        exact hbehind w hw
      · show (m.first.drop 1).length + (m.second.drop n).length < m.first.length + m.second.length
        rw [List.length_drop, List.length_drop, hfirst, List.length_cons]
        omega

/-- Whichever row looks first, stretches are taken in order. -/
theorem Orderly.stretches (h : m.Orderly key row) (hc : c.Fair key row) (hover : m.isOver = false) :
    (stretches c m).2.Orderly key row ∧
      ((stretches c m).2.isOver = true ∨ (stretches c m).2.left < m.left) := by
  have hfirst := h.stretchFirst hc hover
  have hsecond := h.stretchSecond hc hover
  unfold Merge.stretches
  cases c.secondLooks with
  | true =>
      simp only [if_true]
      generalize Merge.stretchSecond c m = r at hsecond
      obtain ⟨n, m'⟩ := r
      dsimp only at hsecond ⊢
      cases hdone : m'.isOver with
      | true => exact ⟨hsecond.1, .inl hdone⟩
      | false =>
          obtain ⟨hnext, hleft⟩ := hsecond.1.stretchFirst hc hdone
          have hless := hsecond.2.resolve_left (by rw [hdone]; exact Bool.false_ne_true)
          exact ⟨hnext, hleft.imp_right fun h => Nat.lt_trans h hless⟩
  | false =>
      simp only [Bool.false_eq_true, if_false]
      generalize Merge.stretchFirst c m = r at hfirst
      obtain ⟨n, m'⟩ := r
      dsimp only at hfirst ⊢
      cases hdone : m'.isOver with
      | true => exact ⟨hfirst.1, .inl hdone⟩
      | false =>
          obtain ⟨hnext, hleft⟩ := hfirst.1.stretchSecond hc hdone
          have hless := hfirst.2.resolve_left (by rw [hdone]; exact Bool.false_ne_true)
          exact ⟨hnext, hleft.imp_right fun h => Nat.lt_trans h hless⟩

/-- **A merge stays orderly to its end**, and it comes to its end. -/
theorem Orderly.run (hc : c.Fair key row) (n : Nat) :
    ∀ (pace : Pace) (m : Merge α), m.Orderly key row → m.left ≤ n →
      (run c n pace m).Orderly key row ∧ (run c n pace m).isOver = true := by
  induction n with
  | zero =>
      intro pace m h hn
      have hsecond : m.second = [] := List.length_eq_zero_iff.mp (by unfold left at hn; omega)
      have hover : m.isOver = true := by rw [isOver, hsecond]; rfl
      cases pace <;> exact ⟨h, hover⟩
  | succ n ih =>
      intro pace m h hn
      cases hover : m.isOver with
      | true => cases pace <;> rw [Merge.run, if_pos hover] <;> exact ⟨h, hover⟩
      | false =>
          have hgo : ¬m.isOver = true := by rw [hover]; exact Bool.false_ne_true
          cases pace with
          | single won lost =>
              obtain ⟨⟨x, xs, hfirst, hxs⟩, y, ys, hsecond⟩ := heads_of_not_over hover
              have hwins := hc.wins x (h.first_mem (hfirst ▸ List.mem_cons_self)) y
                (h.second_mem (hsecond ▸ List.mem_cons_self))
              have hnext : m.secondIsNext c = c.secondWins x y := by
                simp only [secondIsNext, hfirst, hsecond]
              rw [Merge.run, if_neg hgo, hnext]
              cases hwin : c.secondWins x y with
              | true =>
                  rw [if_pos rfl]
                  refine ih _ _ (h.takeOther hfirst hsecond (hwins.mp hwin)) ?_
                  show m.first.length + (m.second.drop 1).length ≤ n
                  unfold left at hn
                  rw [hsecond, List.length_cons] at hn
                  rw [hsecond, List.drop_one, List.tail_cons]
                  omega
              | false =>
                  have hle : key x ≤ key y := by
                    refine not_lt.mp fun hlt => ?_
                    exact Bool.false_ne_true (hwin.symm.trans (hwins.mpr hlt))
                  rw [if_neg Bool.false_ne_true]
                  refine ih _ _ (h.takeHead hfirst hxs hsecond hle) ?_
                  show (m.first.drop 1).length + m.second.length ≤ n
                  unfold left at hn
                  rw [hfirst, List.length_cons] at hn
                  rw [hfirst, List.drop_one, List.tail_cons]
                  omega
          | stretch isFirst =>
              rw [Merge.run, if_neg hgo]
              dsimp only
              generalize (if isFirst || m.patience ≤ 1 then m.patience else m.patience - 1) = eager
              obtain ⟨hnext, hless⟩ := (h.withPatience eager).stretches hc hover
              generalize Merge.stretches c { m with patience := eager } = r at hnext hless
              obtain ⟨long, m'⟩ := r
              dsimp only at hnext hless ⊢
              cases hdone : m'.isOver with
              | true => exact ⟨hnext, hdone⟩
              | false =>
                  have hless := hless.resolve_left (by rw [hdone]; exact Bool.false_ne_true)
                  have hleft : m'.left ≤ n := Nat.le_of_lt_succ (Nat.lt_of_lt_of_le hless hn)
                  rw [if_neg Bool.false_ne_true]
                  cases long with
                  | true => exact ih _ _ hnext hleft
                  | false => exact ih _ _ (hnext.withPatience _) hleft

/-- **Rows are merged stably in a fair contest**, if the second begins below the first and the first
    ends above the second. -/
theorem ofRows_sorts {first second : List α} (hc : c.Fair key (first ++ second))
    (hfirst : Ascending key first) (hsecond : Ascending key second) {x y : α}
    (hlast : first.getLast? = some x) (habove : ∀ z ∈ second, key z < key x)
    (hhead : second.head? = some y) (hbelow : ∀ z ∈ first, key y < key z) (patience : Nat) :
    SortsTo key (first ++ second) (ofRows c patience first second).1 := by
  have hstart : (Merge.mk [] first second patience).Orderly key (first ++ second) :=
    ⟨.nil, hfirst, hsecond, List.forall_mem_nil _, ⟨x, hlast, habove⟩, .refl _⟩
  have hnext : ((Merge.mk [] first second patience).takeSecond 1).Orderly key (first ++ second) := by
    refine hstart.takeSecond fun z hz w hw => ?_
    have hz : z ∈ second.take 1 := hz
    obtain ⟨ys, rfl⟩ := List.head?_eq_some_iff.mp hhead
    rw [List.take_succ_cons, List.take_zero, List.mem_singleton] at hz
    rw [hz]
    exact hbelow w hw
  obtain ⟨hend, hover⟩ := Orderly.run hc (first.length + second.length) (.single 0 0) _ hnext
    (by show first.length + (second.drop 1).length ≤ _; rw [List.length_drop]; omega)
  exact hend.result hover

end Merge

/-! ## Neighbouring runs -/

variable {below : α → α → Bool} {key : α → κ} {first second : List α}

theorem SortsTo.reverse {xs ys : List α} (h : SortsTo (fun x => OrderDual.toDual (key x)) xs ys) :
    SortsTo key xs.reverse ys.reverse :=
  ⟨ascending_reverse_toDual.mp h.ascending, SameByKey.reverse h.same⟩

/-- A row is sorted if its middle is, which lies between what stands in front and what stands
    behind. -/
theorem SortsTo.between {front middle back merged : List α} {low high : κ}
    (h : SortsTo key middle merged) (hfront : Ascending key front) (hback : Ascending key back)
    (hlow : ∀ x ∈ front, key x ≤ low) (hmiddle : ∀ x ∈ middle, low ≤ key x ∧ key x ≤ high)
    (hhigh : ∀ x ∈ back, high ≤ key x) (hle : low ≤ high) :
    SortsTo key (front ++ middle ++ back) (front ++ merged ++ back) := by
  have hmerged : ∀ x ∈ merged, low ≤ key x ∧ key x ≤ high := fun x hx =>
    hmiddle x (h.mem_iff.mp hx)
  constructor
  · refine Ascending.append (hfront.append h.ascending fun x hx y hy => ?_) hback fun x hx y hy => ?_
    · exact (hlow x hx).trans (hmerged y hy).1
    · rcases List.mem_append.mp hx with hx | hx
      · exact ((hlow x hx).trans hle).trans (hhigh y hy)
      · exact (hmerged x hx).2.trans (hhigh y hy)
  · exact ((SameByKey.refl front).append h.same).append (SameByKey.refl back)

/-- Rows are merged stably from their backs as well. -/
theorem Merge.ofRows_descending_sorts (h : RanksBy below key (first ++ second))
    (hfirst : Ascending key first) (hsecond : Ascending key second) {x y : α}
    (hlast : first.getLast? = some x) (habove : ∀ z ∈ second, key z < key x)
    (hhead : second.head? = some y) (hbelow : ∀ z ∈ first, key y < key z) (patience : Nat) :
    SortsTo key (first ++ second)
      (Merge.ofRows (.descending below) patience second.reverse first.reverse).1.reverse := by
  have hranks : RanksBy below key (second.reverse ++ first.reverse) := by
    refine h.subset fun z hz => ?_
    rcases List.mem_append.mp hz with hz | hz
    · exact List.mem_append_right _ (List.mem_reverse.mp hz)
    · exact List.mem_append_left _ (List.mem_reverse.mp hz)
  have hback := Merge.ofRows_sorts (x := y) (y := x) (Contest.descending_fair hranks)
    (ascending_reverse_toDual.mpr (by rw [List.reverse_reverse]; exact hsecond))
    (ascending_reverse_toDual.mpr (by rw [List.reverse_reverse]; exact hfirst))
    (by rw [List.getLast?_reverse]; exact hhead) (fun z hz => hbelow z (List.mem_reverse.mp hz))
    (by rw [List.head?_reverse]; exact hlast) (fun z hz => habove z (List.mem_reverse.mp hz)) patience
  have hturned := hback.reverse
  rw [List.reverse_append, List.reverse_reverse, List.reverse_reverse] at hturned
  exact hturned

/-- What a search from the front skips of a row does not exceed the bound, and everything else does. -/
theorem skip_bounds {items xs : List α} (h : RanksBy below key items) (hxs : xs ⊆ items) {y : α}
    (hy : y ∈ items) (hasc : Ascending key xs) :
    (∀ x ∈ xs.take (boundary (fun x => below y x) xs.toArray 0), key x ≤ key y) ∧
      ∀ x ∈ xs.drop (boundary (fun x => below y x) xs.toArray 0), key y < key x := by
  refine ⟨fun x hx => ?_, fun x hx => ?_⟩
  · have hne : 0 < xs.length := List.length_pos_of_mem (List.mem_of_mem_take hx)
    exact not_lt.mp (of_decide_eq_false ((boundary_above h hxs hy hasc hne).take x hx))
  · have hne : 0 < xs.length := List.length_pos_of_mem (List.mem_of_mem_drop hx)
    exact of_decide_eq_true ((boundary_above h hxs hy hasc hne).drop x hx)

/-- What a search from the back leaves in front of the place where it stops is less than the bound, and
    nothing else is. -/
theorem stop_bounds {items ys : List α} (h : RanksBy below key items) (hys : ys ⊆ items) {x : α}
    (hx : x ∈ items) (hasc : Ascending key ys) :
    (∀ y ∈ ys.take (boundary (fun y => !below y x) ys.toArray (ys.length - 1)), key y < key x) ∧
      ∀ y ∈ ys.drop (boundary (fun y => !below y x) ys.toArray (ys.length - 1)), key x ≤ key y := by
  have hback : ∀ {y}, y ∈ ys → ys.length - 1 < ys.length := fun hy =>
    Nat.sub_one_lt_of_lt (List.length_pos_of_mem hy)
  refine ⟨fun y hy => ?_, fun y hy => ?_⟩
  · have hparts := boundary_from h hys hx hasc (hback (List.mem_of_mem_take hy))
    exact not_le.mp (of_decide_eq_false (hparts.take y hy))
  · have hparts := boundary_from h hys hx hasc (hback (List.mem_of_mem_drop hy))
    exact of_decide_eq_true (hparts.drop y hy)

/-- **Neighbouring runs are merged stably.** -/
theorem mergeRuns_sorts (h : RanksBy below key (first ++ second)) (hfirst : Ascending key first)
    (hsecond : Ascending key second) (patience : Nat) :
    SortsTo key (first ++ second) (mergeRuns below patience first second).1 := by
  have hmemf : first ⊆ first ++ second := List.subset_append_left first second
  have hmems : second ⊆ first ++ second := List.subset_append_right first second
  unfold mergeRuns
  split
  · rw [List.append_nil]
    exact ⟨hfirst, .refl _⟩
  · next y ys =>
    have hy : y ∈ y :: ys := List.mem_cons_self
    have hyleast := hsecond.head_le rfl
    obtain ⟨hfront, hrest⟩ := skip_bounds h hmemf (hmems hy) hfirst
    dsimp only
    generalize boundary (fun x => below y x) first.toArray 0 = skip at hfront hrest
    obtain ⟨htake, hdrop, -⟩ := hfirst.split skip
    split
    · next hlast =>
      have hall : first.take skip = first := by
        have hwhole := List.take_append_drop skip first
        rwa [List.getLast?_eq_none_iff.mp hlast, List.append_nil] at hwhole
      refine ⟨hfirst.append hsecond fun x hx z hz => ?_, .refl _⟩
      exact (hfront x (hall.symm ▸ hx)).trans (hyleast z hz)
    · next x hlast =>
      have hx : x ∈ first.drop skip := List.mem_of_getLast? hlast
      obtain ⟨hhead, htail⟩ := stop_bounds h hmems (hmemf (List.mem_of_mem_drop hx)) hsecond
      generalize boundary (fun z => !below z x) (y :: ys).toArray ((y :: ys).length - 1) = stop
        at hhead htail
      obtain ⟨htake', hdrop', -⟩ := hsecond.split stop
      have hstarts : ((y :: ys).take stop).head? = some y := by
        cases stop with
        | zero => exact absurd (htail y hy) (not_le.mpr (hrest x hx))
        | succ stop => rfl
      have hfilled : ((y :: ys).take stop).isEmpty = false := by
        obtain ⟨zs, hzs⟩ := List.head?_eq_some_iff.mp hstarts
        rw [hzs]
        rfl
      have hranks : RanksBy below key (first.drop skip ++ (y :: ys).take stop) :=
        h.subset (List.append_subset.mpr ⟨fun z hz => hmemf (List.mem_of_mem_drop hz),
          fun z hz => hmems (List.mem_of_mem_take hz)⟩)
      have hwhole : first ++ y :: ys
          = first.take skip ++ (first.drop skip ++ (y :: ys).take stop) ++ (y :: ys).drop stop := by
        rw [← List.append_assoc (first.take skip), List.take_append_drop, List.append_assoc first,
          List.take_append_drop]
      have hmiddle : ∀ z ∈ first.drop skip ++ (y :: ys).take stop,
          key y ≤ key z ∧ key z ≤ key x := by
        intro z hz
        rcases List.mem_append.mp hz with hz | hz
        · exact ⟨(hrest z hz).le, hdrop.le_getLast hlast z hz⟩
        · exact ⟨hyleast z (List.mem_of_mem_take hz), (hhead z hz).le⟩
      rw [if_neg (by rw [hfilled]; exact Bool.false_ne_true), hwhole]
      split
      · have hsorts := Merge.ofRows_sorts (Contest.ascending_fair hranks) hdrop htake' hlast hhead
          hstarts hrest patience
        exact hsorts.between htake hdrop' hfront hmiddle htail (hrest x hx).le
      · have hsorts := Merge.ofRows_descending_sorts hranks hdrop htake' hlast hhead hstarts hrest
          patience
        exact hsorts.between htake hdrop' hfront hmiddle htail (hrest x hx).le

end LessonVariants
