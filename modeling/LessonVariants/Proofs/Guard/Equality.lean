import LessonVariants.Proofs.Guard.Depth
import LessonVariants.Proofs.Keyed
import LessonVariants.Proofs.Number.Order
import Mathlib.Data.List.Perm.Subperm

/-! # What equality compares

    Two values of JSON are the same inside a container just if they show the same head at every
    place, where a truth value shows as the number one or zero (`Value.same_iff_agree`).  At the top a
    truth value keeps to its own kind (`Value.equals_iff`).  So equality is an equivalence that tells
    numbers apart by what they denote, and it tells truth values from numbers at the top, but not
    further in (`equality_keeps_kinds_iff`).

    Equality goes down into containers, and answers where they are no deeper than the room that is left.
    Deeper ones it may not get through, but it never gives another answer. -/

namespace LessonVariants

namespace Value

/-! ## Values by their places -/

section

variable {ρ : Type}

/-- Values as JSON has them.  Every number is defined, and an object has each key once. -/
inductive IsJson [Scalar ρ] : Value ρ → Prop where
  | null : IsJson .null
  | bool (t : Bool) : IsJson (.bool t)
  | number {n : ρ} : Scalar.reading n ≠ .undefined → IsJson (.number n)
  | text (s : String) : IsJson (.text s)
  | list {xs : List (Value ρ)} : (∀ x ∈ xs, IsJson x) → IsJson (.list xs)
  | object {m : List (String × Value ρ)} :
      (Keyed.keys m).Nodup → (∀ e ∈ m, IsJson e.2) → IsJson (.object m)

/-- What stands inside a value at a key or at an index. -/
def child? : Value ρ → String ⊕ Nat → Option (Value ρ)
  | list xs,  .inr i => xs[i]?
  | object m, .inl k => Keyed.get? m k
  | _,        _      => none

/-- What stands at a place of a value: the value itself at the empty place. -/
def at? : Value ρ → List (String ⊕ Nat) → Option (Value ρ)
  | v, []     => some v
  | v, s :: p => (v.child? s).bind fun w => at? w p

/-- What a value shows of itself, apart from what stands inside. -/
inductive Head where
  | null
  | truth  (t : Bool)
  | amount (r : Reading)
  | text   (s : String)
  | list
  | object
  | record
  | test

/-- A head whose truth value is read as the number one or zero. -/
def Head.blurred : Head → Head
  | truth t => amount (.finite (if t then 1 else 0))
  | h       => h

variable [Scalar ρ]

/-- The head of a value. -/
def head : Value ρ → Head
  | null       => .null
  | bool t     => .truth t
  | number n   => .amount (Scalar.reading n)
  | text s     => .text s
  | list _     => .list
  | object _   => .object
  | record _ _ => .record
  | test       => .test

/-- The head at a place. -/
def headAt? (v : Value ρ) (p : List (String ⊕ Nat)) : Option Head :=
  (v.at? p).map head

/-- Two values agree: at every place both show the same, or neither has it, where a truth value counts
    as a number. -/
def Agree (a b : Value ρ) : Prop :=
  ∀ p, (a.headAt? p).map Head.blurred = (b.headAt? p).map Head.blurred

/-- A truth value of one stands where a number of the other stands. -/
def BlursAt (a b : Value ρ) (p : List (String ⊕ Nat)) : Prop :=
  ∃ t n, a.at? p = some (.bool t) ∧ b.at? p = some (.number n) ∨
    a.at? p = some (.number n) ∧ b.at? p = some (.bool t)

/-- A truth value. -/
def isTruth : Value ρ → Bool
  | bool _ => true
  | _      => false

/-- What stands inside JSON is JSON. -/
theorem IsJson.child {v x : Value ρ} (h : v.IsJson) {s : String ⊕ Nat} (hs : v.child? s = some x) :
    x.IsJson := by
  cases h with
  | list hxs =>
      cases s with
      | inl k => exact nomatch hs
      | inr i => exact hxs x (List.mem_of_getElem? hs)
  | object _ hm =>
      cases s with
      | inl k => exact hm (k, x) (Keyed.mem_of_get? hs)
      | inr i => exact nomatch hs
  | _ => exact nomatch hs

/-- **Induction along places.**  What is true of JSON whenever it is true of what stands inside is
    true of all JSON. -/
theorem IsJson.induct {P : Value ρ → Prop}
    (step : ∀ v, v.IsJson → (∀ s x, v.child? s = some x → P x) → P v) {v : Value ρ}
    (h : v.IsJson) : P v := by
  induction h with
  | list hxs ih =>
      refine step _ (.list hxs) fun s x hs => ?_
      cases s with
      | inl k => exact nomatch hs
      | inr i => exact ih x (List.mem_of_getElem? hs)
  | object hkeys hm ih =>
      refine step _ (.object hkeys hm) fun s x hs => ?_
      cases s with
      | inl k => exact ih (k, x) (Keyed.mem_of_get? hs)
      | inr i => exact nomatch hs
  | null => exact step _ .null fun s x hs => nomatch hs
  | bool t => exact step _ (.bool t) fun s x hs => nomatch hs
  | number hn => exact step _ (.number hn) fun s x hs => nomatch hs
  | text s => exact step _ (.text s) fun s x hs => nomatch hs

theorem headAt?_cons (v : Value ρ) (s : String ⊕ Nat) (p : List (String ⊕ Nat)) :
    v.headAt? (s :: p) = (v.child? s).bind fun w => w.headAt? p :=
  Option.map_bind

/-- Two values agree just if their heads do and they have agreeing values inside at the same steps. -/
theorem agree_iff {a b : Value ρ} :
    a.Agree b ↔ a.head.blurred = b.head.blurred ∧
      ∀ s, Option.Rel Agree (a.child? s) (b.child? s) := by
  constructor
  · intro h
    refine ⟨Option.some.inj (h []), fun s => ?_⟩
    have hs : ∀ p, ((a.child? s).bind fun w => w.headAt? p).map Head.blurred
        = ((b.child? s).bind fun w => w.headAt? p).map Head.blurred := by
      intro p
      rw [← headAt?_cons, ← headAt?_cons]
      exact h (s :: p)
    cases ha : a.child? s with
    | none =>
        cases hb : b.child? s with
        | none => exact .none
        | some y =>
            rw [ha, hb] at hs
            exact nomatch hs []
    | some x =>
        cases hb : b.child? s with
        | none =>
            rw [ha, hb] at hs
            exact nomatch hs []
        | some y =>
            rw [ha, hb] at hs
            exact .some hs
  · rintro ⟨hhead, hchildren⟩ p
    cases p with
    | nil => exact congrArg some hhead
    | cons s p =>
        have hs := hchildren s
        rw [headAt?_cons, headAt?_cons]
        revert hs
        cases a.child? s <;> cases b.child? s <;> intro hs <;> cases hs
        · rfl
        · next hxy => exact hxy p

end

/-! ## Sameness by places -/

/-- Relations that are the same on two optional values relate them alike. -/
theorem optionRel_congr {α β : Type} {R S : α → β → Prop} {o : Option α} {o' : Option β}
    (h : ∀ x y, o = some x → o' = some y → (R x y ↔ S x y)) :
    Option.Rel R o o' ↔ Option.Rel S o o' := by
  constructor
  · intro hr
    cases hr with
    | none => exact .none
    | some hxy => exact .some ((h _ _ rfl rfl).mp hxy)
  · intro hs
    cases hs with
    | none => exact .none
    | some hxy => exact .some ((h _ _ rfl rfl).mpr hxy)

theorem optionRel_isSome {α β : Type} {R : α → β → Prop} {o : Option α} {o' : Option β}
    (h : Option.Rel R o o') : o.isSome = o'.isSome := by
  cases h <;> rfl

section

variable {ρ : Type} [Scalar ρ]

/-- Lists are the same just if they are at every index. -/
theorem sameItems_iff {xs ys : List (Value ρ)} :
    sameItems xs ys = true ↔ ∀ i : Nat, Option.Rel (fun x y => same x y = true) xs[i]? ys[i]? := by
  induction xs generalizing ys with
  | nil =>
      cases ys with
      | nil => exact iff_of_true (by simp only [sameItems]) fun i => .none
      | cons y ys =>
          refine iff_of_false (by simp only [sameItems]; exact Bool.false_ne_true) fun h => ?_
          cases h 0
  | cons x xs ih =>
      cases ys with
      | nil =>
          refine iff_of_false (by simp only [sameItems]; exact Bool.false_ne_true) fun h => ?_
          cases h 0
      | cons y ys =>
          simp only [sameItems, Bool.and_eq_true, ih]
          constructor
          · rintro ⟨hxy, hrest⟩ i
            cases i with
            | zero => exact .some hxy
            | succ i => exact hrest i
          · intro h
            have hfirst := h 0
            cases hfirst with
            | some hxy => exact ⟨hxy, fun i => h (i + 1)⟩

/-- The entries of an object are found again just if each has the same under its key. -/
theorem sameEntries_iff {m n : List (String × Value ρ)} :
    sameEntries m n = true ↔ ∀ e ∈ m, ∃ y, Keyed.get? n e.1 = some y ∧ same e.2 y = true := by
  induction m with
  | nil => exact iff_of_true (by simp only [sameEntries]) (List.forall_mem_nil _)
  | cons e m ih =>
      obtain ⟨k, x⟩ := e
      simp only [sameEntries, Bool.and_eq_true, ih, List.forall_mem_cons]
      refine and_congr_left fun _ => ?_
      cases Keyed.get? n k with
      | none =>
          refine iff_of_false Bool.false_ne_true ?_
          rintro ⟨y, hy, -⟩
          cases hy
      | some y =>
          constructor
          · intro hxy
            exact ⟨y, rfl, hxy⟩
          · rintro ⟨z, hz, hxz⟩
            cases hz
            exact hxz

/-- Objects are the same just if they are under every key. -/
theorem sameObject_iff {m n : List (String × Value ρ)} (hm : (Keyed.keys m).Nodup)
    (hn : (Keyed.keys n).Nodup) :
    same (.object m) (.object n) = true ↔
      ∀ k, Option.Rel (fun x y => same x y = true) (Keyed.get? m k) (Keyed.get? n k) := by
  simp only [same, Bool.and_eq_true, beq_iff_eq, sameEntries_iff]
  constructor
  · rintro ⟨hlength, hentries⟩ k
    have hsub : Keyed.keys m ⊆ Keyed.keys n := by
      intro key hkey
      obtain ⟨e, he, rfl⟩ := List.mem_map.mp hkey
      obtain ⟨y, hy, -⟩ := hentries e he
      exact Keyed.mem_keys_iff.mpr (by rw [hy]; rfl)
    -- as many keys as there are, all of them found, leave no other key
    have hperm : (Keyed.keys m).Perm (Keyed.keys n) :=
      (List.subperm_of_subset hm hsub).perm_of_length_le (by simp [Keyed.keys, hlength])
    cases hget : Keyed.get? m k with
    | none =>
        have hmissing : k ∉ Keyed.keys n :=
          fun hmem => Keyed.not_mem_keys hget (hperm.mem_iff.mpr hmem)
        rw [Keyed.get?_eq_none hmissing]
        exact .none
    | some x =>
        obtain ⟨y, hy, hxy⟩ := hentries (k, x) (Keyed.mem_of_get? hget)
        rw [hy]
        exact .some hxy
  · intro h
    have hkeys : ∀ k, k ∈ Keyed.keys m ↔ k ∈ Keyed.keys n := by
      intro k
      rw [Keyed.mem_keys_iff, Keyed.mem_keys_iff, optionRel_isSome (h k)]
    refine ⟨?_, fun e he => ?_⟩
    · have hperm := (List.perm_ext_iff_of_nodup hm hn).mpr hkeys
      simpa only [Keyed.keys, List.length_map] using hperm.length_eq
    · have hk := h e.1
      rw [Keyed.get?_of_mem hm he] at hk
      revert hk
      cases Keyed.get? n e.1 <;> intro hk <;> cases hk
      next y hxy => exact ⟨y, rfl, hxy⟩

/-- A truth value counts as the number one or zero. -/
theorem reading_ofFlag (t : Bool) :
    Scalar.reading (ofFlag t : Number) = .finite (if t then 1 else 0) := by
  cases t <;> rfl

/-- JSON of which one side holds nothing is the same just if the heads agree. -/
theorem same_iff_head {a b : Value Number} (ha : a.IsJson) (hb : b.IsJson)
    (hclosed : ¬(a.isContainer = true ∧ b.isContainer = true)) :
    same a b = true ↔ a.head.blurred = b.head.blurred := by
  cases ha with
  | null => cases hb <;> simp [same, head, Head.blurred]
  | text s => cases hb <;> simp [same, head, Head.blurred]
  | bool t =>
      cases hb with
      | bool u => cases t <;> cases u <;> simp [same, head, Head.blurred]
      | number hn => simp [same, head, Head.blurred, Scalar.eq_iff, reading_ofFlag]
      | _ => simp [same, head, Head.blurred]
  | number hm =>
      cases hb with
      | bool u => simp [same, head, Head.blurred, Scalar.eq_iff, reading_ofFlag, hm]
      | number hn => simp [same, head, Head.blurred, Scalar.eq_iff, hm]
      | _ => simp [same, head, Head.blurred]
  | list hxs =>
      cases hb with
      | list hys => exact absurd ⟨rfl, rfl⟩ hclosed
      | object hkeys hm => exact absurd ⟨rfl, rfl⟩ hclosed
      | _ => simp [same, head, Head.blurred]
  | object hkeys hm =>
      cases hb with
      | list hys => exact absurd ⟨rfl, rfl⟩ hclosed
      | object hkeys hm => exact absurd ⟨rfl, rfl⟩ hclosed
      | _ => simp [same, head, Head.blurred]

/-- Where the heads agree, both values hold others or neither does. -/
theorem isContainer_of_head {a b : Value ρ} (h : a.head.blurred = b.head.blurred) :
    a.isContainer = b.isContainer := by
  cases a <;> cases b <;> first | rfl | exact nomatch h

omit [Scalar ρ] in
theorem child?_eq_none {v : Value ρ} (h : v.isContainer = false) (s : String ⊕ Nat) :
    v.child? s = none := by
  cases v <;> first | rfl | exact nomatch h

/-- JSON is the same just if the heads agree and the same stands inside at the same steps. -/
theorem same_iff_children {a b : Value Number} (ha : a.IsJson) (hb : b.IsJson) :
    same a b = true ↔ a.head.blurred = b.head.blurred ∧
      ∀ s, Option.Rel (fun x y => same x y = true) (a.child? s) (b.child? s) := by
  by_cases hboth : a.isContainer = true ∧ b.isContainer = true
  · obtain ⟨hca, hcb⟩ := hboth
    cases ha with
    | list hxs =>
        cases hb with
        | list hys =>
            rw [same, sameItems_iff]
            constructor
            · intro h
              refine ⟨rfl, fun s => ?_⟩
              cases s with
              | inl k => exact .none
              | inr i => exact h i
            · exact fun h i => h.2 (.inr i)
        | object hkeys hn => simp [same, head, Head.blurred]
        | _ => exact absurd hcb Bool.false_ne_true
    | object hkeys hm =>
        cases hb with
        | list hys => simp [same, head, Head.blurred]
        | object hkeys' hn =>
            rw [sameObject_iff hkeys hkeys']
            constructor
            · intro h
              refine ⟨rfl, fun s => ?_⟩
              cases s with
              | inl k => exact h k
              | inr i => exact .none
            · exact fun h k => h.2 (.inl k)
        | _ => exact absurd hcb Bool.false_ne_true
    | _ => exact absurd hca Bool.false_ne_true
  · refine (same_iff_head ha hb hboth).trans (and_iff_left_of_imp fun hhead s => ?_).symm
    -- heads that agree are both of values that hold nothing, since one of them is
    have hkind := isContainer_of_head hhead
    have hca : a.isContainer = false := by
      cases h : a.isContainer with
      | false => rfl
      | true => exact absurd ⟨h, hkind.symm.trans h⟩ hboth
    rw [child?_eq_none hca, child?_eq_none (hkind.symm.trans hca)]
    exact .none

/-- **JSON is the same just if it agrees at every place.** -/
theorem same_iff_agree {a b : Value Number} (ha : a.IsJson) (hb : b.IsJson) :
    same a b = true ↔ a.Agree b := by
  revert b
  refine ha.induct (P := fun a => ∀ {b : Value Number}, b.IsJson → (same a b = true ↔ a.Agree b))
    fun a ha ih b hb => ?_
  rw [same_iff_children ha hb, agree_iff]
  refine and_congr_right fun _ => forall_congr' fun s => optionRel_congr fun x y hx hy => ?_
  exact ih s x hx (hb.child hy)

/-! ## Equality -/

/-- At the top a truth value equals truth values only; what is no truth value is equal where it is the
    same. -/
theorem equals_eq (a b : Value Number) :
    a.equals b = (a.isTruth == b.isTruth && same a b) := by
  cases a <;> cases b <;> simp [equals, isTruth, same]

/-- **JSON is equal just if it agrees at every place and both sides are truth values or neither is.** -/
theorem equals_iff {a b : Value Number} (ha : a.IsJson) (hb : b.IsJson) :
    a.equals b = true ↔ a.isTruth = b.isTruth ∧ a.Agree b := by
  rw [equals_eq, Bool.and_eq_true, beq_iff_eq, same_iff_agree ha hb]

/-- **Equality of JSON is an equivalence.** -/
theorem equals_equivalence :
    Equivalence fun a b : { v : Value Number // v.IsJson } => a.1.equals b.1 = true where
  refl a := (equals_iff a.2 a.2).mpr ⟨rfl, fun _ => rfl⟩
  symm {a b} h := by
    obtain ⟨hkind, hagree⟩ := (equals_iff a.2 b.2).mp h
    exact (equals_iff b.2 a.2).mpr ⟨hkind.symm, fun p => (hagree p).symm⟩
  trans {a b c} h h' := by
    obtain ⟨hkind, hagree⟩ := (equals_iff a.2 b.2).mp h
    obtain ⟨hkind', hagree'⟩ := (equals_iff b.2 c.2).mp h'
    exact (equals_iff a.2 c.2).mpr ⟨hkind.trans hkind', fun p => (hagree p).trans (hagree' p)⟩

/-- Heads that differ only where a truth value counts as a number are those of a truth value and of a
    number. -/
theorem head_eq_or_blurred {x y : Value Number} (h : x.head.blurred = y.head.blurred) :
    x.head = y.head ∨
      ∃ t n, x = .bool t ∧ y = .number n ∨ x = .number n ∧ y = .bool t := by
  cases x with
  | bool t =>
      cases y with
      | bool u =>
          refine .inl ?_
          cases t <;> cases u <;> first | rfl | exact absurd h (by simp [head, Head.blurred])
      | number n => exact .inr ⟨t, n, .inl ⟨rfl, rfl⟩⟩
      | _ => exact nomatch h
  | number n =>
      cases y with
      | bool t => exact .inr ⟨t, n, .inr ⟨rfl, rfl⟩⟩
      | number m => exact .inl h
      | _ => exact nomatch h
  | _ => cases y <;> first | exact .inl h | exact nomatch h

/-- Values that agree keep truth values and numbers apart just if their heads are the same at every
    place. -/
theorem Agree.keeps_apart_iff {a b : Value Number} (h : a.Agree b) :
    (∀ p, ¬BlursAt a b p) ↔ ∀ p, a.headAt? p = b.headAt? p := by
  refine forall_congr' fun p => ?_
  have hp := h p
  simp only [headAt?, BlursAt] at hp ⊢
  cases ha : a.at? p with
  | none =>
      cases hb : b.at? p with
      | none => simp
      | some y => rw [ha, hb] at hp; exact nomatch hp
  | some x =>
      cases hb : b.at? p with
      | none => rw [ha, hb] at hp; exact nomatch hp
      | some y =>
          rw [ha, hb] at hp
          constructor
          · intro hapart
            rcases head_eq_or_blurred (Option.some.inj hp) with heq | ⟨t, n, hblur⟩
            · exact congrArg some heq
            · refine absurd ⟨t, n, ?_⟩ hapart
              rcases hblur with ⟨rfl, rfl⟩ | ⟨rfl, rfl⟩
              · exact .inl ⟨rfl, rfl⟩
              · exact .inr ⟨rfl, rfl⟩
          · rintro heq ⟨t, n, ⟨hx, hy⟩ | ⟨hx, hy⟩⟩ <;> cases hx <;> cases hy <;> exact nomatch heq

end

end Value

/-! ## The theorem -/

section

variable {room : Nat} {a b : Value Number}

/-- On data no deeper than the room, the four operators answer as equality does. -/
theorem compareBy_equality (h : a.depth ≤ room) (b : Value Number) :
    Value.compareBy room "==" a b = .ok (a.equals b) ∧
      Value.compareBy room "===" a b = .ok (a.equals b) ∧
      Value.compareBy room "!=" a b = .ok !a.equals b ∧
      Value.compareBy room "!==" a b = .ok !a.equals b := by
  have hequal : Value.equalsAt room false a b = .ok (a.equals b) := Value.equalsAt_of_depth h
  have hopposite := congrArg (Except.map (!·)) hequal
  exact ⟨hequal, hequal, hopposite, hopposite⟩

theorem compareBy_equal_iff (h : a.depth ≤ room) :
    Value.compareBy room "==" a b = .ok true ↔ a.equals b = true := by
  rw [(compareBy_equality h b).1, Except.ok.injEq]

/-- A value that is read twice from one place compares as two values that are equal. -/
theorem compare_self (ha : a.IsJson) (h : a.depth ≤ room) (c : Comparator) :
    Value.compare room true c a a = Value.compare room false c a a := by
  have hself : a.equals a = true := (Value.equals_iff ha ha).mpr ⟨rfl, fun _ => rfl⟩
  cases hc : c.isOrder with
  | true =>
      cases ho : Value.ordering? a a with
      | some o => rw [Value.compare_of_ordering hc ho, Value.compare_of_ordering hc ho]
      | none => rw [Value.compare_of_no_ordering hc ho, Value.compare_of_no_ordering hc ho]
  | false =>
      obtain ⟨f, hf⟩ := Value.compare_of_not_order (ρ := Number) hc
      rw [hf, hf, Value.equalsAt_of_depth h, Value.equalsAt_of_depth h, hself, Bool.or_true,
        Bool.or_true]

/-- In any other room an operator gives the same answer, or comes to the end of the room. -/
theorem compare_other_room (ha : a.depth ≤ room) (hb : b.depth ≤ room) (d : Nat) (c : Comparator) :
    CutAt .tooDeep (Value.compare d false c a b) (Value.compare room false c a b) := by
  rcases Nat.le_total d room with hd | hd
  · exact Value.compare_cut hd
  · have hcut : CutAt .tooDeep (Value.compare room false c a b) (Value.compare d false c a b) :=
      Value.compare_cut hd
    rcases hcut with hdeep | heq
    · exact absurd hdeep (Value.compare_ne_tooDeep ha hb)
    · exact .inr heq.symm

end

/-- **Equality tells truth values from numbers just where their places show the same heads.**  On JSON
    no deeper than the room, `==` is an equivalence; `===` gives the same answer, `!=` and `!==` the
    opposite one, and all four always answer.  Numbers are equal just if they denote the same, and a
    truth value is never equal to a number.  Lists and objects are equal just if they agree at every
    place, where a truth value counts as the number one or zero: so equal ones have a truth value and a
    number at one place unless they show the same heads everywhere.  A value read twice from one place
    compares as two equal values.

    In any other room an operator gives the same answer, or comes to the end of the room. -/
theorem equality_keeps_kinds_iff {room : Nat} {a b : Value Number} (ha : a.IsJson) (hb : b.IsJson)
    (hda : a.depth ≤ room) (hdb : b.depth ≤ room) :
    (Equivalence fun v w : { v : Value Number // v.IsJson ∧ v.depth ≤ room } =>
      Value.compareBy room "==" v.1 w.1 = .ok true) ∧
    (∃ r, Value.compareBy room "==" a b = .ok r ∧ Value.compareBy room "===" a b = .ok r ∧
      Value.compareBy room "!=" a b = .ok !r ∧ Value.compareBy room "!==" a b = .ok !r) ∧
    (∀ m n, a = .number m → b = .number n →
      (Value.compareBy room "==" a b = .ok true ↔ Scalar.reading m = Scalar.reading n)) ∧
    (Value.BlursAt a b [] → Value.compareBy room "==" a b = .ok false) ∧
    (Value.compareBy room "==" a b = .ok true ↔ a.isTruth = b.isTruth ∧ a.Agree b) ∧
    (Value.compareBy room "==" a b = .ok true →
      ((∀ p, ¬Value.BlursAt a b p) ↔ ∀ p, a.headAt? p = b.headAt? p)) ∧
    (∀ c, Value.compare room true c a a = Value.compare room false c a a) ∧
    ∀ d c, CutAt .tooDeep (Value.compare d false c a b) (Value.compare room false c a b) := by
  have hok := compareBy_equal_iff (b := b) hda
  refine ⟨?_, ⟨a.equals b, compareBy_equality hda b⟩, ?_, ?_, ?_, ?_, compare_self ha hda,
    compare_other_room hda hdb⟩
  · refine ⟨fun v => ?_, fun {v w} h => ?_, fun {u v w} h h' => ?_⟩
    · exact (compareBy_equal_iff v.2.2).mpr (Value.equals_equivalence.refl ⟨v.1, v.2.1⟩)
    · have hequal := (compareBy_equal_iff v.2.2).mp h
      exact (compareBy_equal_iff w.2.2).mpr
        (Value.equals_equivalence.symm (x := ⟨v.1, v.2.1⟩) (y := ⟨w.1, w.2.1⟩) hequal)
    · have hequal := (compareBy_equal_iff u.2.2).mp h
      have hequal' := (compareBy_equal_iff v.2.2).mp h'
      exact (compareBy_equal_iff u.2.2).mpr (Value.equals_equivalence.trans (x := ⟨u.1, u.2.1⟩)
        (y := ⟨v.1, v.2.1⟩) (z := ⟨w.1, w.2.1⟩) hequal hequal')
  · rintro m n rfl rfl
    cases ha with
    | number hm => exact hok.trans (Scalar.eq_iff.trans (and_iff_left hm))
  · intro hblur
    rw [(compareBy_equality hda b).1]
    obtain ⟨t, n, ⟨hx, hy⟩ | ⟨hx, hy⟩⟩ := hblur <;> cases hx <;> cases hy <;> rfl
  · exact hok.trans (Value.equals_iff ha hb)
  · intro h
    exact ((Value.equals_iff ha hb).mp (hok.mp h)).2.keeps_apart_iff

/-- The integer 5 equals the double 5, by itself and inside a list, and since the truth values before
    them are the same, the lists keep the kinds apart. -/
theorem equality_keeps_kinds_five :
    let m : Value Number := .number (.int 5)
    let n : Value Number := .number (.float 5.0)
    let a : Value Number := .list [.bool true, m]
    let b : Value Number := .list [.bool true, n]
    m.IsJson ∧ n.IsJson ∧ m.depth ≤ 1 ∧ n.depth ≤ 1 ∧ Value.compareBy 1 "==" m n = .ok true ∧
      a.IsJson ∧ b.IsJson ∧ a.depth ≤ 1 ∧ b.depth ≤ 1 ∧ Value.compareBy 1 "==" a b = .ok true ∧
      ∀ p, ¬Value.BlursAt a b p := by
  intro m n a b
  have hfloat : Scalar.reading (.float 5.0 : Number) = .finite 5 := by decide +kernel
  have hm : m.IsJson := .number fun h => nomatch h
  have hn : n.IsJson := .number (by rw [hfloat]; exact fun h => nomatch h)
  have hlist : ∀ x : Value Number, x.IsJson → (Value.list [.bool true, x]).IsJson := by
    intro x hx
    exact .list (List.forall_mem_cons.mpr ⟨.bool true, List.forall_mem_singleton.mpr hx⟩)
  have hheads : ∀ p, a.headAt? p = b.headAt? p := by
    intro p
    match p with
    | []                => rfl
    | .inl _ :: _       => rfl
    | .inr 0 :: _       => rfl
    | .inr 1 :: []      => exact congrArg (fun r => some (Value.Head.amount r)) hfloat.symm
    | .inr 1 :: _ :: _  => rfl
    | .inr (_ + 2) :: _ => rfl
  have hdm : m.depth ≤ 1 := by decide
  have hdn : n.depth ≤ 1 := by decide
  have hda : a.depth ≤ 1 := by decide
  have hdb : b.depth ≤ 1 := by decide
  obtain ⟨-, -, hnumbers, -⟩ := equality_keeps_kinds_iff hm hn hdm hdn
  obtain ⟨-, -, -, -, hagree, hapart, -⟩ :=
    equality_keeps_kinds_iff (hlist m hm) (hlist n hn) hda hdb
  have hequal := hagree.mpr ⟨rfl, fun p => congrArg _ (hheads p)⟩
  exact ⟨hm, hn, hdm, hdn, (hnumbers _ _ rfl rfl).mpr hfloat.symm, hlist m hm, hlist n hn, hda, hdb,
    hequal, (hapart hequal).mpr hheads⟩

/-- **A list with a truth value is equal to one with a number.**  By themselves, the two are not. -/
theorem nested_truth_equals_number :
    let a : Value Number := .list [.bool true]
    let b : Value Number := .list [.number (.int 1)]
    a.IsJson ∧ b.IsJson ∧ Value.compareBy 970 "==" a b = .ok true ∧ Value.BlursAt a b [.inr 0] ∧
      Value.compareBy 970 "==" (.bool true) (.number (.int 1) : Value Number) = .ok false := by
  intro a b
  have hequal : a.equals b = true := by decide +kernel
  have hda : a.depth ≤ 970 := by decide
  refine ⟨.list ?_, .list ?_, (compareBy_equality hda b).1.trans (congrArg Except.ok hequal),
    ⟨true, .int 1, .inl ⟨rfl, rfl⟩⟩, (compareBy_equality (Nat.zero_le 970) _).1⟩
  · exact List.forall_mem_singleton.mpr (.bool true)
  · exact List.forall_mem_singleton.mpr (.number (by decide))

end LessonVariants
