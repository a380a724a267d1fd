import LessonVariants.Guard.Eval
import LessonVariants.Proofs.Keyed
import LessonVariants.Proofs.Outcome

/-! # Data within the room of the stack

    Showing data and comparing it for equality go down into it, and come to the end of the stack only
    where the data has more levels than are left (`Value.obstacle?_ne_depth`, `Value.sameLevels_le`).
    More room changes nothing else about an answer: a comparison in a smaller room gives what it gives
    in a larger one, or runs out (`Value.compare_cut`). -/

namespace LessonVariants

/-- One search for an obstacle ends as another one, unless it runs out of levels before. -/
def Obstacle.Cut (x y : Option Obstacle) : Prop :=
  x = some .depth ∨ x = y

theorem Obstacle.Cut.or {x y x' y' : Option Obstacle} (h : Obstacle.Cut x y)
    (h' : Obstacle.Cut x' y') : Obstacle.Cut (x.or x') (y.or y') := by
  rcases h with rfl | rfl
  · exact .inl rfl
  · cases x with
    | none => exact h'
    | some o => exact .inr rfl

theorem Obstacle.or_ne {o : Obstacle} {x y : Option Obstacle} (hx : x ≠ some o) (hy : y ≠ some o) :
    x.or y ≠ some o := by
  cases x with
  | none => exact hy
  | some o' => exact hx

namespace Value

variable {ρ : Type}

/-! ## Containers and what they hold -/

variable [Scalar ρ]

mutual

/-- With fewer levels the same obstacle is come to first, or the levels are used up. -/
theorem obstacle?_cut (v : Value ρ) {d k : Nat} (hdk : d ≤ k) :
    Obstacle.Cut (obstacle? v d) (obstacle? v k) :=
  match v with
  | null        => .inr rfl
  | bool _      => .inr rfl
  | number _    => .inr rfl
  | text _      => .inr rfl
  | test        => .inr rfl
  | list xs     => by
      cases d with
      | zero => exact .inl rfl
      | succ d =>
          obtain ⟨k, rfl⟩ : ∃ j, k = j + 1 := ⟨k - 1, by omega⟩
          exact itemsObstacle?_cut xs (Nat.le_of_succ_le_succ hdk)
  | object m    => by
      cases d with
      | zero => exact .inl rfl
      | succ d =>
          obtain ⟨k, rfl⟩ : ∃ j, k = j + 1 := ⟨k - 1, by omega⟩
          exact entriesObstacle?_cut m (Nat.le_of_succ_le_succ hdk)
  | record _ fs => by
      cases d with
      | zero => exact .inl rfl
      | succ d =>
          obtain ⟨k, rfl⟩ : ∃ j, k = j + 1 := ⟨k - 1, by omega⟩
          exact fieldsObstacle?_cut fs (Nat.le_of_succ_le_succ hdk)

theorem itemsObstacle?_cut (xs : List (Value ρ)) {d k : Nat} (hdk : d ≤ k) :
    Obstacle.Cut (itemsObstacle? xs d) (itemsObstacle? xs k) :=
  match xs with
  | []      => .inr rfl
  | x :: xs => (obstacle?_cut x hdk).or (itemsObstacle?_cut xs hdk)

theorem entriesObstacle?_cut (m : List (String × Value ρ)) {d k : Nat} (hdk : d ≤ k) :
    Obstacle.Cut (entriesObstacle? m d) (entriesObstacle? m k) :=
  match m with
  | []          => .inr rfl
  | (_, x) :: m => (obstacle?_cut x hdk).or (entriesObstacle?_cut m hdk)

theorem fieldsObstacle?_cut (fs : List (FieldName × Value ρ)) {d k : Nat} (hdk : d ≤ k) :
    Obstacle.Cut (fieldsObstacle? fs d) (fieldsObstacle? fs k) :=
  match fs with
  | []           => .inr rfl
  | (_, x) :: fs => (obstacle?_cut x hdk).or (fieldsObstacle?_cut fs hdk)

end

mutual

/-- **Data whose levels are there can be shown**, as far as depth goes. -/
theorem obstacle?_ne_depth (v : Value ρ) {d : Nat} (h : depth v ≤ d) : obstacle? v d ≠ some .depth :=
  match v with
  | null        => by simp [obstacle?]
  | bool _      => by simp [obstacle?]
  | number _    => by simp [obstacle?]
  | text _      => by simp [obstacle?]
  | test        => by simp [obstacle?]
  | list xs     => by
      simp only [depth] at h
      obtain ⟨d, rfl⟩ : ∃ j, d = j + 1 := ⟨d - 1, by omega⟩
      exact itemsObstacle?_ne_depth xs (Nat.le_of_succ_le_succ h)
  | object m    => by
      simp only [depth] at h
      obtain ⟨d, rfl⟩ : ∃ j, d = j + 1 := ⟨d - 1, by omega⟩
      exact entriesObstacle?_ne_depth m (Nat.le_of_succ_le_succ h)
  | record _ fs => by
      simp only [depth] at h
      obtain ⟨d, rfl⟩ : ∃ j, d = j + 1 := ⟨d - 1, by omega⟩
      exact fieldsObstacle?_ne_depth fs (Nat.le_of_succ_le_succ h)

theorem itemsObstacle?_ne_depth (xs : List (Value ρ)) {d : Nat} (h : itemsDepth xs ≤ d) :
    itemsObstacle? xs d ≠ some .depth :=
  match xs with
  | []      => by simp [itemsObstacle?]
  | x :: xs => by
      simp only [itemsDepth, Nat.max_le] at h
      exact Obstacle.or_ne (obstacle?_ne_depth x h.1) (itemsObstacle?_ne_depth xs h.2)

theorem entriesObstacle?_ne_depth (m : List (String × Value ρ)) {d : Nat} (h : entriesDepth m ≤ d) :
    entriesObstacle? m d ≠ some .depth :=
  match m with
  | []          => by simp [entriesObstacle?]
  | (_, x) :: m => by
      simp only [entriesDepth, Nat.max_le] at h
      exact Obstacle.or_ne (obstacle?_ne_depth x h.1) (entriesObstacle?_ne_depth m h.2)

theorem fieldsObstacle?_ne_depth (fs : List (FieldName × Value ρ)) {d : Nat}
    (h : fieldsDepth fs ≤ d) : fieldsObstacle? fs d ≠ some .depth :=
  match fs with
  | []           => by simp [fieldsObstacle?]
  | (_, x) :: fs => by
      simp only [fieldsDepth, Nat.max_le] at h
      exact Obstacle.or_ne (obstacle?_ne_depth x h.1) (fieldsObstacle?_ne_depth fs h.2)

end

/-! ## How deep a comparison for equality goes -/

mutual

/-- **Equality goes no deeper than the value on its left has levels.** -/
theorem sameLevels_le (v w : Value ρ) : sameLevels v w ≤ depth v :=
  match v with
  | null        => by simp [sameLevels]
  | bool _      => by simp [sameLevels]
  | number _    => by simp [sameLevels]
  | text _      => by simp [sameLevels]
  | test        => by simp [sameLevels]
  | list xs     => by
      cases w with
      | list ys =>
          have hitems := itemsLevels_le xs ys
          simp only [sameLevels, depth]
          split <;> omega
      | _ => simp [sameLevels]
  | object m    => by
      cases w with
      | object n =>
          have hentries := entriesLevels_le m n
          simp only [sameLevels, depth]
          split <;> omega
      | _ => simp [sameLevels]
  | record k fs => by
      cases w with
      | record l gs =>
          have hfields := fieldsLevels_le fs gs
          simp only [sameLevels, depth]
          split <;> omega
      | _ => simp [sameLevels]

theorem itemsLevels_le (xs ys : List (Value ρ)) : itemsLevels xs ys ≤ itemsDepth xs :=
  match xs with
  | []      => by simp [itemsLevels]
  | x :: xs => by
      cases ys with
      | nil => simp [itemsLevels]
      | cons y ys =>
          have hx := sameLevels_le x y
          have hrest := itemsLevels_le xs ys
          simp only [itemsLevels, itemsDepth]
          split <;> omega

theorem entriesLevels_le (m n : List (String × Value ρ)) : entriesLevels m n ≤ entriesDepth m :=
  match m with
  | []          => by simp [entriesLevels]
  | (k, x) :: m => by
      have hrest := entriesLevels_le m n
      simp only [entriesLevels, entriesDepth]
      split
      · next y _ =>
          have hx := sameLevels_le x y
          split <;> omega
      · exact Nat.zero_le _

theorem fieldsLevels_le (fs gs : List (FieldName × Value ρ)) : fieldsLevels fs gs ≤ fieldsDepth fs :=
  match fs with
  | []           => by simp [fieldsLevels]
  | (_, x) :: fs => by
      cases gs with
      | nil => simp [fieldsLevels]
      | cons e gs =>
          obtain ⟨f, y⟩ := e
          have hx := sameLevels_le x y
          have hrest := fieldsLevels_le fs gs
          simp only [fieldsLevels, fieldsDepth]
          split <;> omega

end

end Value

/-! ## Errors that are told -/

namespace EvalError

variable {ρ : Type} [Scalar ρ] {e : EvalError ρ} {d k : Nat}

/-- An error whose values can be shown is told as it is. -/
theorem told_of_shown (h : Value.itemsObstacle? e.shownValues d = none) : e.told d = e := by
  rw [told, h]

/-- With fewer levels an error is told in the same way, or the levels are used up. -/
theorem told_cut (hdk : d ≤ k) : e.told d = .tooDeep ∨ e.told d = e.told k := by
  unfold told
  rcases Value.itemsObstacle?_cut e.shownValues hdk with h | h
  · rw [h]
    exact .inl rfl
  · rw [h]
    exact .inr rfl

/-- An error whose values are no deeper than the levels left is told without using them up. -/
theorem told_ne_tooDeep (he : e ≠ .tooDeep) (h : Value.itemsDepth e.shownValues ≤ d) :
    e.told d ≠ .tooDeep := by
  have hdepth := Value.itemsObstacle?_ne_depth e.shownValues h
  unfold told
  cases ho : Value.itemsObstacle? e.shownValues d with
  | none => exact he
  | some o =>
      cases o with
      | depth => exact absurd ho hdepth
      | digits =>
          intro h
          cases h

/-- **Telling an error is beyond repair** just if it comes to an integer of too many digits first. -/
theorem told_isFatal (he : e.isFatal = false) :
    (e.told d).isFatal = true ↔ Value.itemsObstacle? e.shownValues d = some .digits := by
  unfold told
  cases Value.itemsObstacle? e.shownValues d with
  | none => simp [he]
  | some o => cases o <;> simp [Obstacle.error, isFatal]

end EvalError

/-! ## Comparing in the room that is left -/

/-- The operators that ask for an order. -/
def Comparator.isOrder : Comparator → Bool
  | .below   => true
  | .atMost  => true
  | .above   => true
  | .atLeast => true
  | _        => false

namespace Value

variable {ρ : Type} [Scalar ρ] {a b : Value ρ} {d k : Nat} {onePlace : Bool} {c : Comparator}

/-- Equality in a smaller room gives the same answer, or runs out. -/
theorem equalsAt_cut (hdk : d ≤ k) :
    CutAt .tooDeep (equalsAt d onePlace a b) (equalsAt k onePlace a b) := by
  unfold equalsAt
  split
  · exact .inr rfl
  · by_cases h : sameLevels a b ≤ d
    · rw [if_pos h, if_pos (Nat.le_trans h hdk)]
      exact .inr rfl
    · rw [if_neg h]
      exact .inl rfl

/-- Equality of data that is no deeper than the room has an answer. -/
theorem equalsAt_of_depth (h : a.depth ≤ d) :
    equalsAt d onePlace a b = .ok (onePlace && a.isContainer || equals a b) := by
  unfold equalsAt
  cases onePlace && a.isContainer with
  | true => rfl
  | false => exact if_pos (Nat.le_trans (sameLevels_le a b) h)

/-- The operators that ask for no order give the answer of equality, or its opposite. -/
theorem compare_of_not_order (hc : c.isOrder = false) :
    ∃ f : Bool → Bool, ∀ (d : Nat) (onePlace : Bool) (a b : Value ρ),
      Value.compare d onePlace c a b = (equalsAt d onePlace a b).map f := by
  have hid : ∀ x : Except (EvalError ρ) Bool, x = x.map id := by
    intro x
    cases x <;> rfl
  cases c with
  | equal => exact ⟨id, fun _ _ _ _ => hid _⟩
  | strictEqual => exact ⟨id, fun _ _ _ _ => hid _⟩
  | notEqual => exact ⟨(!·), fun _ _ _ _ => rfl⟩
  | strictNotEqual => exact ⟨(!·), fun _ _ _ _ => rfl⟩
  | _ => exact Bool.noConfusion hc

/-- Values that have an order are compared by it, wherever they stand. -/
theorem compare_of_ordering (hc : c.isOrder = true) {o : Option Ordering}
    (h : ordering? a b = some o) : Value.compare d onePlace c a b = .ok (c.accepts o) := by
  cases c <;> first
    | exact Bool.noConfusion hc
    | simp only [Value.compare, h]

/-- Values without an order are not compared, wherever they stand. -/
theorem compare_of_no_ordering (hc : c.isOrder = true) (h : ordering? a b = none) :
    Value.compare d onePlace c a b = .error ((EvalError.incomparable a c.text b).told d) := by
  cases c <;> first
    | exact Bool.noConfusion hc
    | simp only [Value.compare, h]

/-- **A comparison in a smaller room gives the same answer, or runs out.** -/
theorem compare_cut (hdk : d ≤ k) :
    CutAt .tooDeep (Value.compare d onePlace c a b) (Value.compare k onePlace c a b) := by
  cases hc : c.isOrder with
  | true =>
      cases ho : ordering? a b with
      | some o =>
          rw [compare_of_ordering hc ho, compare_of_ordering hc ho]
          exact .inr rfl
      | none =>
          rw [compare_of_no_ordering hc ho, compare_of_no_ordering hc ho]
          exact (EvalError.told_cut hdk).imp (congrArg _) (congrArg _)
  | false =>
      obtain ⟨f, hf⟩ := compare_of_not_order (ρ := ρ) hc
      rw [hf, hf]
      exact (equalsAt_cut hdk).map f

/-- A comparison of data that is no deeper than the room does not run out. -/
theorem compare_ne_tooDeep (ha : a.depth ≤ d) (hb : b.depth ≤ d) :
    Value.compare d onePlace c a b ≠ .error .tooDeep := by
  cases hc : c.isOrder with
  | true =>
      cases ho : ordering? a b with
      | some o =>
          rw [compare_of_ordering hc ho]
          intro h
          cases h
      | none =>
          rw [compare_of_no_ordering hc ho]
          have htold : (EvalError.incomparable a c.text b).told d ≠ .tooDeep := by
            refine EvalError.told_ne_tooDeep (fun h => by cases h) ?_
            simp only [EvalError.shownValues, itemsDepth]
            omega
          exact fun h => htold (Except.error.inj h)
  | false =>
      obtain ⟨f, hf⟩ := compare_of_not_order (ρ := ρ) hc
      rw [hf, equalsAt_of_depth ha]
      intro h
      cases h

end Value

end LessonVariants
