import LessonVariants.Proofs.Wire.Restores
import LessonVariants.Proofs.Wire.Schema

/-! # Spelling the keys of records

    Data can name a field of a record by its wire name or by its internal one.  Two data are spelled
    differently (`Respelled`) if they differ in nothing but which of the two names stands at the
    keys of records.  Where no two fields share a name (`Apart`) and each field is given once
    (`GivenOnce`), a field is found in both or in neither (`RespelledFields.entry?`). -/

namespace LessonVariants

variable {ρ : Type}

/-- Declared fields of which no two share a name. -/
def Apart (fields : List (FieldName × Schema)) : Prop :=
  fields.Pairwise fun p q => q.1.answersTo p.1.wire = false ∧ q.1.answersTo p.1.internal = false

instance (fields : List (FieldName × Schema)) : Decidable (Apart fields) :=
  inferInstanceAs (Decidable (fields.Pairwise _))

/-- Entries among which no declared field is given more than once. -/
def GivenOnce (fields : List (FieldName × Schema)) (m : Keyed (Data ρ)) : Prop :=
  ∀ p ∈ fields, m.countP (fun e => p.1.answersTo e.1) ≤ 1

/-! ## Respelled data -/

mutual

/-- Data that differs only in the names by which the fields of its records are given. -/
inductive Respelled : Schema → Data ρ → Data ρ → Prop where
  | same (σ : Schema) (d : Data ρ) : Respelled σ d d
  | record {fields : List (FieldName × Schema)} {m m' : Keyed (Data ρ)} : GivenOnce fields m →
      RespelledFields fields m m' → Respelled (.record fields) (.object m) (.object m')
  | map {σ : Schema} {m m' : Keyed (Data ρ)} : RespelledValues σ m m' →
      Respelled (.map σ) (.object m) (.object m')
  | list {σ : Schema} {ds ds' : List (Data ρ)} : RespelledItems σ ds ds' →
      Respelled (.list σ) (.list ds) (.list ds')

/-- Entries one by one the same, or under two names of one declared field. -/
inductive RespelledFields :
    List (FieldName × Schema) → Keyed (Data ρ) → Keyed (Data ρ) → Prop where
  | nil (fields : List (FieldName × Schema)) : RespelledFields fields [] []
  | field {fields : List (FieldName × Schema)} {f : FieldName} {σ : Schema} {k k' : String}
      {d d' : Data ρ} {m m' : Keyed (Data ρ)} :
      (f, σ) ∈ fields → f.answersTo k = true → f.answersTo k' = true → Respelled σ d d' →
      RespelledFields fields m m' → RespelledFields fields ((k, d) :: m) ((k', d') :: m')
  | other {fields : List (FieldName × Schema)} (e : String × Data ρ) {m m' : Keyed (Data ρ)} :
      RespelledFields fields m m' → RespelledFields fields (e :: m) (e :: m')

/-- Entries one by one under the same keys. -/
inductive RespelledValues : Schema → Keyed (Data ρ) → Keyed (Data ρ) → Prop where
  | nil (σ : Schema) : RespelledValues σ [] []
  | cons {σ : Schema} (k : String) {d d' : Data ρ} {m m' : Keyed (Data ρ)} :
      Respelled σ d d' → RespelledValues σ m m' → RespelledValues σ ((k, d) :: m) ((k, d') :: m')

/-- Items one by one. -/
inductive RespelledItems : Schema → List (Data ρ) → List (Data ρ) → Prop where
  | nil (σ : Schema) : RespelledItems σ [] []
  | cons {σ : Schema} {d d' : Data ρ} {ds ds' : List (Data ρ)} :
      Respelled σ d d' → RespelledItems σ ds ds' → RespelledItems σ (d :: ds) (d' :: ds')

end

/-- Only null is a spelling of null. -/
theorem Respelled.eq_null_iff {σ : Schema} {d d' : Data ρ} (h : Respelled σ d d') :
    d = .null ↔ d' = .null := by
  cases h with
  | same => exact Iff.rfl
  | _ => exact iff_of_false (fun h => nomatch h) (fun h => nomatch h)

/-! ## Finding fields -/

/-- Only one of the declared fields is given by a key. -/
theorem Apart.eq {fields : List (FieldName × Schema)} (h : Apart fields) {p q : FieldName × Schema}
    (hp : p ∈ fields) (hq : q ∈ fields) {k : String} (hpk : p.1.answersTo k = true)
    (hqk : q.1.answersTo k = true) : p = q := by
  -- a key that both have is one of the two names of the one that comes first
  have hclash : ∀ p q : FieldName × Schema, p.1.answersTo k = true → q.1.answersTo k = true →
      ¬(q.1.answersTo p.1.wire = false ∧ q.1.answersTo p.1.internal = false) := by
    rintro p q hp hq ⟨hwire, hinternal⟩
    rw [FieldName.answersTo, Bool.or_eq_true, beq_iff_eq, beq_iff_eq] at hp
    rcases hp with rfl | rfl
    · exact nomatch hwire.symm.trans hq
    · exact nomatch hinternal.symm.trans hq
  induction h with
  | nil => exact nomatch hp
  | @cons r rest hr _ ih =>
      rcases List.mem_cons.mp hp with rfl | hp'
      · rcases List.mem_cons.mp hq with rfl | hq'
        · rfl
        · exact absurd (hr q hq') (hclash _ _ hpk hqk)
      · rcases List.mem_cons.mp hq with rfl | hq'
        · exact absurd (hr p hp') (hclash _ _ hqk hpk)
        · exact ih hp' hq'

/-- A field that is given once is found by either of its names. -/
theorem Read.entry?_eq_find? {f : FieldName} {m : Keyed (Data ρ)}
    (h : m.countP (fun e => f.answersTo e.1) ≤ 1) :
    Read.entry? m f = m.find? fun e => f.answersTo e.1 := by
  induction m with
  | nil => rfl
  | cons e m ih =>
      obtain ⟨k, d⟩ := e
      simp only [List.countP_cons, List.find?_cons] at h ⊢
      cases hk : f.answersTo k with
      | true =>
          -- no later entry has either name
          rw [hk, if_pos rfl] at h
          have hzero : m.countP (fun e => f.answersTo e.1) = 0 := by omega
          have hnone : ∀ key, f.answersTo key = true → Keyed.get? m key = none := by
            intro key hkey
            refine Keyed.get?_eq_none fun hmem => ?_
            obtain ⟨e, he, rfl⟩ := List.mem_map.mp hmem
            exact List.countP_eq_zero.mp hzero e he hkey
          rw [Read.entry?, Keyed.get?_cons, Keyed.get?_cons]
          by_cases hwire : f.wire = k
          · rw [if_pos hwire, hwire]
          · have hinternal : f.internal = k := by
              rw [FieldName.answersTo, Bool.or_eq_true, beq_iff_eq, beq_iff_eq] at hk
              exact hk.resolve_left hwire
            have hfree : Keyed.get? m f.wire = none := hnone _ (by simp [FieldName.answersTo])
            rw [if_neg hwire, hfree, if_pos hinternal, hinternal]
            rfl
      | false =>
          rw [hk, if_neg Bool.false_ne_true, Nat.add_zero] at h
          rw [← ih h]
          rw [FieldName.answersTo, Bool.or_eq_false_iff, beq_eq_false_iff_ne,
            beq_eq_false_iff_ne] at hk
          exact Read.entry?_cons hk.1.symm hk.2.symm d m

section

variable {fields : List (FieldName × Schema)} (hapart : Apart fields) {f : FieldName} {σ : Schema}
  (hf : (f, σ) ∈ fields)

include hapart hf

/-- Two names of one field are both names of another one, or neither is. -/
theorem answersTo_respelled {g : FieldName} {τ : Schema} (hg : (g, τ) ∈ fields) {k k' : String}
    (hk : g.answersTo k = true) (hk' : g.answersTo k' = true) :
    f.answersTo k' = f.answersTo k := by
  cases hfk : f.answersTo k with
  | true =>
      cases hapart.eq hf hg hfk hk
      exact hk'
  | false =>
      cases hfk' : f.answersTo k' with
      | false => rfl
      | true =>
          cases hapart.eq hf hg hfk' hk'
          exact hk.symm.trans hfk

/-- Respelled entries give each field as often. -/
theorem RespelledFields.countP_eq {m m' : Keyed (Data ρ)} (h : RespelledFields fields m m') :
    m'.countP (fun e => f.answersTo e.1) = m.countP (fun e => f.answersTo e.1) := by
  induction m generalizing m' with
  | nil =>
      cases h
      rfl
  | cons e m ih =>
      cases h with
      | field hg hk hk' _ hrest =>
          simp only [List.countP_cons, answersTo_respelled hapart hf hg hk hk', ih hrest]
      | other _ hrest => simp only [List.countP_cons, ih hrest]

/-- Respelled entries give a field in both or in neither, and then with respelled data. -/
theorem RespelledFields.find? {m m' : Keyed (Data ρ)} (h : RespelledFields fields m m') :
    Option.Rel (fun e e' => Respelled σ e.2 e'.2) (m.find? fun e => f.answersTo e.1)
      (m'.find? fun e => f.answersTo e.1) := by
  induction m generalizing m' with
  | nil =>
      cases h
      exact .none
  | cons e m ih =>
      cases h with
      | @field _ g τ k k' d d' _ _ hg hk hk' hd hrest =>
          have hsame := answersTo_respelled hapart hf hg hk hk'
          simp only [List.find?_cons, hsame]
          cases hfk : f.answersTo k with
          | true =>
              cases hapart.eq hf hg hfk hk
              exact .some hd
          | false => exact ih hrest
      | other _ hrest =>
          simp only [List.find?_cons]
          cases f.answersTo e.1 with
          | true => exact .some (.same σ e.2)
          | false => exact ih hrest

/-- **A field is found in both of two respelled data or in neither**, and then with respelled
    data. -/
theorem RespelledFields.entry? {m m' : Keyed (Data ρ)} (hm : GivenOnce fields m)
    (h : RespelledFields fields m m') :
    Option.Rel (fun e e' => Respelled σ e.2 e'.2) (Read.entry? m f) (Read.entry? m' f) := by
  have honce := hm (f, σ) hf
  have honce' : m'.countP (fun e => f.answersTo e.1) ≤ 1 := by
    rw [h.countP_eq hapart hf]
    exact honce
  rw [Read.entry?_eq_find? honce, Read.entry?_eq_find? honce']
  exact h.find? hapart hf

end

end LessonVariants
