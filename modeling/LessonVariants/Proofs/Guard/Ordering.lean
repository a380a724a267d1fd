import LessonVariants.Proofs.Guard.Depth
import LessonVariants.Proofs.Number.Extended
import Mathlib.Data.List.Lex
import Mathlib.Data.String.Basic

/-! # How guards order values

    Numbers are ordered by their exact values among the rationals and the two infinities, texts by
    their code points.  The six plain operators answer as those of a linear order do
    (`Value.OrderedAs`), so the laws of such an order hold of them.  All other pairs of values have no
    order, only equality (`ordering_exact_and_total`).

    Numbers and texts are compared in any room.  Equality of other values goes down into them, and so
    does telling that they have no order; both can come to the end of the room. -/

namespace LessonVariants

/-! ## What values are ordered by -/

/-- The exact value of a number. -/
def Number.extended? (n : Number) : Option (WithBot (WithTop ℚ)) :=
  n.reading.extended?

/-- The code points of a text. -/
def codePoints (s : String) : List ℕ :=
  s.toList.map Char.toNat

theorem codePoints_strictMono : StrictMono codePoints :=
  fun _ _ h => List.map_lt (fun _ _ hc => hc) (String.lt_iff_toList_lt.mp h)

/-- Two texts are ordered as their code points. -/
theorem compare_compares (s t : String) : (compare s t).Compares (codePoints s) (codePoints t) := by
  have h := cmp_compares s t
  rw [cmp_eq_compare] at h
  cases ho : compare s t with
  | lt => rw [ho] at h; exact codePoints_strictMono h
  | eq => rw [ho] at h; exact congrArg codePoints h
  | gt => rw [ho] at h; exact codePoints_strictMono h

/-! ## Operators that answer as an order -/

namespace Value

/-- Two values are compared in a room as two elements of a linear order. -/
structure OrderedAs {α : Type} [LinearOrder α] (room : Nat) (a b : Value Number) (v w : α) :
    Prop where
  below    : compareBy room "<" a b = .ok (decide (v < w))
  atMost   : compareBy room "<=" a b = .ok (decide (v ≤ w))
  above    : compareBy room ">" a b = .ok (decide (w < v))
  atLeast  : compareBy room ">=" a b = .ok (decide (w ≤ v))
  equal    : compareBy room "==" a b = .ok (decide (v = w))
  notEqual : compareBy room "!=" a b = .ok (decide (v ≠ w))

/-- Values that have an order: two numbers that denote something, or two texts. -/
inductive Comparable : Value Number → Value Number → Prop where
  | numbers {m n : Number} :
      m.reading ≠ .undefined → n.reading ≠ .undefined → Comparable (.number m) (.number n)
  | texts (s t : String) : Comparable (.text s) (.text t)

/-- Whether two values are two numbers, or two texts. -/
def alike : Value Number → Value Number → Bool
  | number _, number _ => true
  | text _,   text _   => true
  | _,        _        => false

section

variable {α : Type} [LinearOrder α] {room : Nat} {a b c : Value Number} {u v w : α}

/-- An operator by its written form. -/
theorem compareBy_text (room : Nat) (k : Comparator) (a b : Value Number) :
    compareBy room k.text a b = Value.compare room false k a b := by
  cases k <;> rfl

theorem ok_decide {ε : Type} {t : Bool} {p : Prop} [Decidable p] (h : t = true ↔ p) :
    (.ok t : Except ε Bool) = .ok (decide p) :=
  congrArg Except.ok (Bool.eq_iff_iff.mpr (h.trans decide_eq_true_iff.symm))

/-- Values whose order is that of two elements are compared as the elements, if they are equal just if
    the elements are. -/
theorem orderedAs_of_compares {o : Ordering} (horder : ordering? a b = some (some o))
    (ho : o.Compares v w) (hdepth : a.depth = 0) (hequal : a.equals b = true ↔ v = w) :
    OrderedAs room a b v w := by
  have hequals : equalsAt room false a b = .ok (a.equals b) :=
    equalsAt_of_depth (hdepth ▸ Nat.zero_le room)
  have hanswer : ∀ k : Comparator, k.isOrder = true →
      compareBy room k.text a b = .ok (k.accepts (some o)) := by
    intro k hk
    rw [compareBy_text, compare_of_ordering hk horder]
  constructor
  · refine (hanswer .below rfl).trans (ok_decide ?_)
    simp only [Comparator.accepts, beq_iff_eq, Option.some.injEq, ho.eq_lt]
  · refine (hanswer .atMost rfl).trans (ok_decide ?_)
    simp only [Comparator.accepts, Bool.or_eq_true, beq_iff_eq, Option.some.injEq, ho.eq_lt, ho.eq_eq,
      le_iff_lt_or_eq]
  · refine (hanswer .above rfl).trans (ok_decide ?_)
    simp only [Comparator.accepts, beq_iff_eq, Option.some.injEq, ho.eq_gt]
  · refine (hanswer .atLeast rfl).trans (ok_decide ?_)
    simp only [Comparator.accepts, Bool.or_eq_true, beq_iff_eq, Option.some.injEq, ho.eq_gt, ho.eq_eq,
      le_iff_lt_or_eq, eq_comm (a := w)]
  · exact hequals.trans (ok_decide hequal)
  · refine (congrArg (Except.map (!·)) hequals).trans (ok_decide ?_)
    rw [Bool.not_eq_true', ← Bool.not_eq_true]
    exact not_congr hequal

/-- **Numbers are compared by their exact values.** -/
theorem orderedAs_number {m n : Number} {v w : WithBot (WithTop ℚ)} (hm : m.extended? = some v)
    (hn : n.extended? = some w) : OrderedAs room (.number m) (.number n) v w := by
  obtain ⟨o, horder, ho⟩ := Reading.compare?_compares hm hn
  refine orderedAs_of_compares (congrArg some horder) ho (by simp [depth]) ?_
  rw [← ho.eq_eq]
  show (m.reading.compare? n.reading == some .eq) = true ↔ o = .eq
  rw [horder, beq_iff_eq, Option.some.injEq]

/-- **Texts are compared by their code points.** -/
theorem orderedAs_text (s t : String) :
    OrderedAs room (.text s) (.text t) (codePoints s) (codePoints t) := by
  refine orderedAs_of_compares rfl (compare_compares s t) (by simp [depth]) ?_
  rw [codePoints_strictMono.injective.eq_iff]
  simp only [equals, same, beq_iff_eq]

theorem ok_decide_iff {ε : Type} {p : Prop} [Decidable p] :
    (.ok (decide p) : Except ε Bool) = .ok true ↔ p := by
  rw [Except.ok.injEq, decide_eq_true_iff]

theorem OrderedAs.below_iff (h : OrderedAs room a b v w) :
    compareBy room "<" a b = .ok true ↔ v < w := by
  rw [h.below, ok_decide_iff]

theorem OrderedAs.equal_iff (h : OrderedAs room a b v w) :
    compareBy room "==" a b = .ok true ↔ v = w := by
  rw [h.equal, ok_decide_iff]

theorem OrderedAs.above_iff (h : OrderedAs room a b v w) :
    compareBy room ">" a b = .ok true ↔ w < v := by
  rw [h.above, ok_decide_iff]

/-- Of two values compared as in a linear order, exactly one relation holds. -/
theorem OrderedAs.trichotomy (h : OrderedAs room a b v w) :
    ∃! op, op ∈ ["<", "==", ">"] ∧ compareBy room op a b = .ok true := by
  have hholds : ∀ op, op ∈ ["<", "==", ">"] ∧ compareBy room op a b = .ok true ↔
      op = "<" ∧ v < w ∨ op = "==" ∧ v = w ∨ op = ">" ∧ w < v := by
    intro op
    simp only [List.mem_cons, List.not_mem_nil, or_false]
    constructor
    · rintro ⟨rfl | rfl | rfl, hop⟩
      · exact .inl ⟨rfl, h.below_iff.mp hop⟩
      · exact .inr (.inl ⟨rfl, h.equal_iff.mp hop⟩)
      · exact .inr (.inr ⟨rfl, h.above_iff.mp hop⟩)
    · rintro (⟨rfl, hlt⟩ | ⟨rfl, heq⟩ | ⟨rfl, hgt⟩)
      · exact ⟨.inl rfl, h.below_iff.mpr hlt⟩
      · exact ⟨.inr (.inl rfl), h.equal_iff.mpr heq⟩
      · exact ⟨.inr (.inr rfl), h.above_iff.mpr hgt⟩
  simp only [hholds]
  rcases lt_trichotomy v w with hlt | heq | hgt
  · simp [hlt, hlt.ne, hlt.not_gt]
  · simp [heq]
  · simp [hgt, hgt.ne', hgt.not_gt]

/-- At most as large is below or equal. -/
theorem OrderedAs.atMost_iff (h : OrderedAs room a b v w) :
    compareBy room "<=" a b = .ok true ↔
      compareBy room "<" a b = .ok true ∨ compareBy room "==" a b = .ok true := by
  rw [h.below_iff, h.equal_iff, h.atMost, ok_decide_iff]
  exact le_iff_lt_or_eq

/-- At least as large is not below. -/
theorem OrderedAs.atLeast_iff (h : OrderedAs room a b v w) :
    compareBy room ">=" a b = .ok true ↔ compareBy room "<" a b = .ok false := by
  rw [h.atLeast, h.below, ok_decide_iff, Except.ok.injEq, decide_eq_false_iff_not, not_lt]

end

/-- Values that have an order are compared as two elements of a linear order. -/
theorem Comparable.orderedAs {a b : Value Number} (h : a.Comparable b) (room : Nat) :
    (∃ v w : WithBot (WithTop ℚ), OrderedAs room a b v w) ∨
      ∃ v w : List ℕ, OrderedAs room a b v w := by
  cases h with
  | numbers hm hn =>
      obtain ⟨v, hv⟩ := Reading.extended?_eq_some hm
      obtain ⟨w, hw⟩ := Reading.extended?_eq_some hn
      exact .inl ⟨v, w, orderedAs_number hv hw⟩
  | texts s t => exact .inr ⟨_, _, orderedAs_text s t⟩

/-- **The order is transitive.** -/
theorem Comparable.trans {room : Nat} {a b c : Value Number} (hab : a.Comparable b)
    (hbc : b.Comparable c) (h : compareBy room "<" a b = .ok true)
    (h' : compareBy room "<" b c = .ok true) :
    compareBy room "<" a c = .ok true := by
  cases hab with
  | numbers hm hn =>
      cases hbc with
      | numbers _ hp =>
          obtain ⟨u, hu⟩ := Reading.extended?_eq_some hm
          obtain ⟨v, hv⟩ := Reading.extended?_eq_some hn
          obtain ⟨w, hw⟩ := Reading.extended?_eq_some hp
          have huv := (orderedAs_number hu hv).below_iff.mp h
          have hvw := (orderedAs_number hv hw).below_iff.mp h'
          exact (orderedAs_number hu hw).below_iff.mpr (huv.trans hvw)
  | texts r s =>
      cases hbc with
      | texts _ t =>
          have hrs := (orderedAs_text r s).below_iff.mp h
          have hst := (orderedAs_text s t).below_iff.mp h'
          exact (orderedAs_text r t).below_iff.mpr (hrs.trans hst)

/-- Values of which one is no number and one is no text have no order. -/
theorem ordering?_of_not_alike {a b : Value Number} (h : alike a b = false) :
    ordering? a b = none := by
  cases a <;> cases b <;> first | rfl | exact Bool.noConfusion h

/-- A comparison in a guard takes one level, and compares in the room that is left. -/
theorem evalWithin_compare {scope : Root → Value Number} {l r : Expr} {d : Nat} {a b : Value Number}
    (ha : l.evalWithin scope d = .ok a) (hb : r.evalWithin scope d = .ok b) (k : Comparator) :
    (Expr.compare k l r).evalWithin scope (d + 1)
      = (Value.compare d (Expr.onePlace scope l r) k a b).map .bool := by
  rw [Expr.evalWithin, ha, hb]
  show (Value.compare d (Expr.onePlace scope l r) k a b >>= fun t => pure (Value.bool t)) = _
  cases Value.compare d (Expr.onePlace scope l r) k a b <;> rfl

/-- The operators that ask for an order do not look at where the values stand. -/
theorem compare_order {k : Comparator} (hk : k.isOrder = true) (room : Nat) (onePlace : Bool)
    (a b : Value Number) : Value.compare room onePlace k a b = compareBy room k.text a b := by
  rw [compareBy_text]
  cases ho : ordering? a b with
  | some o => rw [compare_of_ordering hk ho, compare_of_ordering hk ho]
  | none => rw [compare_of_no_ordering hk ho, compare_of_no_ordering hk ho]

/-- The other operators answer on data that is no deeper than the room. -/
theorem compare_of_depth {k : Comparator} (hk : k.isOrder = false) {room : Nat}
    {a b : Value Number} (h : a.depth ≤ room) (onePlace : Bool) :
    ∃ t, Value.compare room onePlace k a b = .ok t := by
  obtain ⟨f, hf⟩ := compare_of_not_order (ρ := Number) hk
  rw [hf, equalsAt_of_depth h]
  exact ⟨_, rfl⟩

/-- They answer, or come to the end of the room. -/
theorem compare_of_equality {k : Comparator} (hk : k.isOrder = false) (room : Nat) (onePlace : Bool)
    (a b : Value Number) :
    (∃ t, Value.compare room onePlace k a b = .ok t) ∨
      Value.compare room onePlace k a b = .error .tooDeep := by
  obtain ⟨f, hf⟩ := compare_of_not_order (ρ := Number) hk
  rw [hf]
  unfold equalsAt
  split
  · exact .inl ⟨_, rfl⟩
  · split
    · exact .inl ⟨_, rfl⟩
    · exact .inr rfl

/-- Values without an order have an obstacle to being shown in a message, or the message says so. -/
theorem compareBy_unordered {k : Comparator} (hk : k.isOrder = true) {a b : Value Number}
    (h : alike a b = false) (room : Nat) :
    compareBy room k.text a b = .error ((EvalError.incomparable a k.text b).told room) := by
  rw [compareBy_text]
  exact compare_of_no_ordering hk (ordering?_of_not_alike h)

end Value

/-! ## The theorem -/

/-- **Guards order numbers by exact value and texts by code point.**  Numbers that denote something, in
    any mixture of integers and doubles, are compared as their exact values, and texts as their code
    points, lexicographically, in any room.  So `<` is transitive, exactly one of `<`, `==` and `>`
    holds, `<=` is `<` or `==`, and `>=` is the opposite of `<`.

    On all other pairs the operators that ask for an order fail.  The error names both values, if
    nothing keeps them from being shown in the room; if showing them comes to the end of the room, then
    so does the comparison.  The others answer on values no deeper than the room, and on any values
    they answer or come to the end of the room.  Inside a guard the operators do the same, with one
    level less. -/
theorem ordering_exact_and_total :
    (∀ (room : Nat) (m n : Number) (v w : WithBot (WithTop ℚ)),
      m.extended? = some v → n.extended? = some w →
      Value.OrderedAs room (.number m) (.number n) v w) ∧
    (∀ (room : Nat) (s t : String),
      Value.OrderedAs room (.text s) (.text t) (codePoints s) (codePoints t)) ∧
    (∀ (room : Nat) (a b c : Value Number), a.Comparable b → b.Comparable c →
      Value.compareBy room "<" a b = .ok true → Value.compareBy room "<" b c = .ok true →
      Value.compareBy room "<" a c = .ok true) ∧
    (∀ (room : Nat) (a b : Value Number), a.Comparable b →
      (∃! op, op ∈ ["<", "==", ">"] ∧ Value.compareBy room op a b = .ok true) ∧
      (Value.compareBy room "<=" a b = .ok true ↔
        Value.compareBy room "<" a b = .ok true ∨ Value.compareBy room "==" a b = .ok true) ∧
      (Value.compareBy room ">=" a b = .ok true ↔ Value.compareBy room "<" a b = .ok false)) ∧
    (∀ (room : Nat) (a b : Value Number) (k : Comparator),
      k.isOrder = true → Value.alike a b = false →
      (Value.itemsObstacle? [a, b] room = none →
        Value.compareBy room k.text a b = .error (.incomparable a k.text b)) ∧
      (Value.itemsObstacle? [a, b] room = some .depth →
        Value.compareBy room k.text a b = .error .tooDeep)) ∧
    (∀ (room : Nat) (a b : Value Number) (k : Comparator), k.isOrder = false →
      (a.depth ≤ room → ∃ t, Value.compareBy room k.text a b = .ok t) ∧
      ((∃ t, Value.compareBy room k.text a b = .ok t) ∨
        Value.compareBy room k.text a b = .error .tooDeep)) ∧
    ∀ (scope : Root → Value Number) (l r : Expr) (d : Nat) (a b : Value Number),
      l.evalWithin scope d = .ok a → r.evalWithin scope d = .ok b → ∀ k : Comparator,
      (k.isOrder = true →
        (Expr.compare k l r).evalWithin scope (d + 1)
          = (Value.compareBy d k.text a b).map .bool) ∧
      (k.isOrder = false →
        (a.depth ≤ d → ∃ t, (Expr.compare k l r).evalWithin scope (d + 1) = .ok (.bool t)) ∧
        ((∃ t, (Expr.compare k l r).evalWithin scope (d + 1) = .ok (.bool t)) ∨
          (Expr.compare k l r).evalWithin scope (d + 1) = .error .tooDeep)) := by
  refine ⟨fun room m n v w hm hn => Value.orderedAs_number hm hn,
    fun room s t => Value.orderedAs_text s t, fun room a b c hab hbc => hab.trans hbc,
    fun room a b h => ?_, fun room a b k hk h => ⟨fun hshown => ?_, fun hdeep => ?_⟩,
    fun room a b k hk => ⟨fun hdepth => ?_, ?_⟩,
    fun scope l r d a b ha hb k => ⟨fun hk => ?_, fun hk => ⟨fun hdepth => ?_, ?_⟩⟩⟩
  · rcases h.orderedAs room with ⟨v, w, hvw⟩ | ⟨v, w, hvw⟩
    · exact ⟨hvw.trichotomy, hvw.atMost_iff, hvw.atLeast_iff⟩
    · exact ⟨hvw.trichotomy, hvw.atMost_iff, hvw.atLeast_iff⟩
  · rw [Value.compareBy_unordered hk h]
    exact congrArg Except.error (EvalError.told_of_shown hshown)
  · rw [Value.compareBy_unordered hk h, EvalError.told,
      show (EvalError.incomparable a k.text b).shownValues = [a, b] from rfl, hdeep]
    rfl
  · rw [Value.compareBy_text]
    exact Value.compare_of_depth hk hdepth false
  · rw [Value.compareBy_text]
    exact Value.compare_of_equality hk room false a b
  · rw [Value.evalWithin_compare ha hb, Value.compare_order hk]
  · obtain ⟨t, ht⟩ := Value.compare_of_depth hk (b := b) hdepth (Expr.onePlace scope l r)
    rw [Value.evalWithin_compare ha hb, ht]
    exact ⟨t, rfl⟩
  · rw [Value.evalWithin_compare ha hb]
    rcases Value.compare_of_equality hk d (Expr.onePlace scope l r) a b with ⟨t, ht⟩ | hdeep
    · rw [ht]
      exact .inl ⟨t, rfl⟩
    · rw [hdeep]
      exact .inr rfl

/-- The double nearest to the integer 9007199254740993 lies below it, and infinity above both; in a guard,
    a truth value has no order with the integer. -/
theorem ordering_beyond_doubles :
    let double : Value Number := .number (.float 9007199254740992.0)
    let int : Value Number := .number (.int 9007199254740993)
    let infinity : Value Number := .number (.float 1e999)
    double.Comparable int ∧ int.Comparable infinity ∧
      Value.compareBy 0 "<" double int = .ok true ∧ Value.compareBy 0 "<" int infinity = .ok true ∧
      Value.compareBy 0 "<" double infinity = .ok true ∧
      Value.compareBy 0 ">=" double int ≠ .ok true ∧ Value.alike (.bool true) int = false ∧
      (Expr.compare .below (.literal (.bool true))
        (.literal (.number (.integer 9007199254740993)))).evalWithin (fun _ => .null) 2
          = .error (.incomparable (.bool true) "<" int) := by
  intro double int infinity
  have hdouble : (.float 9007199254740992.0 : Number).reading = .finite 9007199254740992 := by
    decide +kernel
  have hinfinity : (.float 1e999 : Number).reading = .posInfinity := by decide +kernel
  have hint : (.int 9007199254740993 : Number).reading = .finite 9007199254740993 := rfl
  have hfinite : ∀ q, Reading.finite q ≠ .undefined := fun q h => nomatch h
  have hlow : double.Comparable int :=
    .numbers (by rw [hdouble]; exact hfinite _) (by rw [hint]; exact hfinite _)
  have hhigh : int.Comparable infinity :=
    .numbers (by rw [hint]; exact hfinite _) (by rw [hinfinity]; exact fun h => nomatch h)
  obtain ⟨hnumbers, -, htrans, hlaws, hothers, -, heval⟩ := ordering_exact_and_total
  have hlt : Value.compareBy 0 "<" double int = .ok true := by
    have hvalues : (9007199254740992 : ℚ) < 9007199254740993 := by decide +kernel
    refine (hnumbers 0 (.float 9007199254740992.0) (.int 9007199254740993) _ _
      (congrArg Reading.extended? hdouble) (congrArg Reading.extended? hint)).below_iff.mpr ?_
    exact WithBot.coe_lt_coe.mpr (WithTop.coe_lt_coe.mpr hvalues)
  have hlt' : Value.compareBy 0 "<" int infinity = .ok true := by
    refine (hnumbers 0 (.int 9007199254740993) (.float 1e999) _ _
      (congrArg Reading.extended? hint) (congrArg Reading.extended? hinfinity)).below_iff.mpr ?_
    exact WithBot.coe_lt_coe.mpr (WithTop.coe_lt_top _)
  have hshown : Value.itemsObstacle? [.bool true, int] 1 = none := by decide +kernel
  obtain ⟨-, -, hatLeast⟩ := hlaws 0 double int hlow
  refine ⟨hlow, hhigh, hlt, hlt', htrans 0 _ _ _ hlow hhigh hlt hlt', fun h => ?_, rfl, ?_⟩
  · exact nomatch hlt.symm.trans (hatLeast.mp h)
  · refine ((heval _ _ _ 1 (.bool true) int rfl rfl .below).1 rfl).trans ?_
    rw [(hothers 1 (.bool true) int .below rfl rfl).1 hshown]
    rfl

/-! ## Equality of deep data -/

namespace Value

/-- An empty list inside a number of others. -/
def nested : Nat → Value Number
  | 0     => list []
  | n + 1 => list [nested n]

theorem same_nested (n : Nat) : same (nested n) (nested n) = true := by
  induction n with
  | zero => simp [nested, same, sameItems]
  | succ n ih => simp [nested, same, sameItems, ih]

/-- Comparing such lists goes down into all of them. -/
theorem sameLevels_nested (n : Nat) : sameLevels (nested n) (nested n) = n + 1 := by
  induction n with
  | zero => simp [nested, sameLevels, itemsLevels]
  | succ n ih => simp [nested, sameLevels, itemsLevels, ih]

theorem equalsAt_nested (room n : Nat) :
    equalsAt room false (nested n) (nested n)
      = if n < room then .ok true else .error .tooDeep := by
  have hequals : equals (nested n) (nested n) = true := by
    rw [← same_nested n]
    cases n <;> rfl
  show (if _ ≤ room then _ else _) = _
  rw [sameLevels_nested, hequals]
  rfl

end Value

/-- **Equality comes to the end of the room on equal lists.**  Nested as deep as the room, they are equal
    with one more level only. -/
theorem equality_of_deep_lists :
    Value.compareBy 970 "==" (Value.nested 970) (Value.nested 970) = .error .tooDeep ∧
      Value.compareBy 970 "!=" (Value.nested 970) (Value.nested 970) = .error .tooDeep ∧
      Value.compareBy 971 "==" (Value.nested 970) (Value.nested 970) = .ok true := by
  have hanswer := fun room => Value.equalsAt_nested room 970
  exact ⟨hanswer 970, congrArg (Except.map (!·)) (hanswer 970), hanswer 971⟩

end LessonVariants
