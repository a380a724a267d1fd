import LessonVariants.Proofs.Wire.Spelling

/-! # Values of declared shape

    A value has the shape of a schema (`Shaped`) if a record stands where the schema declares one,
    with the declared fields in their order, a map or a list where it declares those, and free-form
    data where it declares nothing; nothing at all may stand anywhere.  The views of the engine's
    records have the shapes that were declared for them. -/

namespace LessonVariants

variable {ρ α : Type}

mutual

/-- A value of the shape that a schema declares. -/
inductive Shaped : Schema → Value ρ → Prop where
  | null (σ : Schema) : Shaped σ .null
  | plain (d : Data ρ) : Shaped .plain (.ofData d)
  | record {fields : List (FieldName × Schema)} {kind : String} {fs : List (FieldName × Value ρ)} :
      Apart fields → ShapedFields fields fs → Shaped (.record fields) (.record kind fs)
  | map {σ : Schema} {m : List (String × Value ρ)} :
      (∀ e ∈ m, Shaped σ e.2) → Shaped (.map σ) (.object m)
  | list {σ : Schema} {vs : List (Value ρ)} :
      (∀ v ∈ vs, Shaped σ v) → Shaped (.list σ) (.list vs)

/-- The declared fields in their order, with values of their shapes. -/
inductive ShapedFields : List (FieldName × Schema) → List (FieldName × Value ρ) → Prop where
  | nil : ShapedFields [] []
  | cons {f : FieldName} {σ : Schema} {v : Value ρ} {fields : List (FieldName × Schema)}
      {fs : List (FieldName × Value ρ)} : Shaped σ v → ShapedFields fields fs →
      ShapedFields ((f, σ) :: fields) ((f, v) :: fs)

end

/-- Fields of which no two share a name are not written under names of others. -/
theorem Apart.ownNames {fields : List (FieldName × Schema)} (h : Apart fields) :
    Value.ownNames (fields.map Prod.fst) = true := by
  induction h with
  | nil => rfl
  | @cons p fields hp _ ih =>
      rw [List.map_cons, Value.ownNames, Bool.and_eq_true, List.all_eq_true]
      refine ⟨fun g hg => ?_, ih⟩
      obtain ⟨q, hq, rfl⟩ := List.mem_map.mp hg
      have hnames := hp q hq
      simp only [FieldName.answersTo, Bool.or_eq_false_iff, beq_eq_false_iff_ne] at hnames
      simp [Ne.symm hnames.1.1, Ne.symm hnames.1.2, Ne.symm hnames.2.1]

namespace ShapedFields

theorem names_eq {fields : List (FieldName × Schema)} {fs : List (FieldName × Value ρ)}
    (h : ShapedFields fields fs) : fs.map Prod.fst = fields.map Prod.fst := by
  induction fields generalizing fs with
  | nil =>
      cases h
      rfl
  | cons p fields ih =>
      cases h with
      | cons _ hrest => exact congrArg (_ :: ·) (ih hrest)

/-- The first field of a name, declared and shown. -/
theorem find? {fields : List (FieldName × Schema)} {fs : List (FieldName × Value ρ)}
    (h : ShapedFields fields fs) (s : String) :
    (fields.find? (fun p => p.1.answersTo s) = none ∧
        fs.find? (fun p => p.1.answersTo s) = none) ∨
      ∃ (i : Nat) (f : FieldName) (σ : Schema) (v : Value ρ),
        fields.find? (fun p => p.1.answersTo s) = some (f, σ) ∧
        fs.find? (fun p => p.1.answersTo s) = some (f, v) ∧ fs[i]? = some (f, v) ∧ Shaped σ v := by
  induction fields generalizing fs with
  | nil =>
      cases h
      exact Or.inl ⟨rfl, rfl⟩
  | cons p fields ih =>
      cases h with
      | @cons f σ v _ fs hv hrest =>
          rw [List.find?_cons, List.find?_cons]
          cases f.answersTo s with
          | true =>
              dsimp only
              exact Or.inr ⟨0, f, σ, v, rfl, rfl, rfl, hv⟩
          | false =>
              dsimp only
              rcases ih hrest with hnone | ⟨i, g, τ, w, hdeclared, hshown, hi, hw⟩
              · exact Or.inl hnone
              · exact Or.inr ⟨i + 1, g, τ, w, hdeclared, hshown, hi, hw⟩

end ShapedFields

open Value

namespace Shaped

/-! ## Constants and containers -/

theorem text (s : String) : Shaped (ρ := ρ) .plain (.text s) :=
  .plain (.text s)

theorem bool (b : Bool) : Shaped (ρ := ρ) .plain (.bool b) :=
  .plain (.bool b)

theorem number (n : ρ) : Shaped .plain (.number n) :=
  .plain (.number n)

theorem word [Vocabulary α] (a : α) : Shaped (ρ := ρ) .plain (ofWord a) :=
  .plain (.text (Vocabulary.label a))

theorem ofOption {σ : Schema} {view : α → Value ρ} {o : Option α}
    (h : ∀ a, o = some a → Shaped σ (view a)) : Shaped σ (Value.ofOption view o) := by
  cases o with
  | none => exact .null σ
  | some a => exact h a rfl

theorem ofKeyed {σ : Schema} {view : α → Value ρ} {m : Keyed α}
    (h : ∀ e ∈ m, Shaped σ (view e.2)) : Shaped (.map σ) (Value.ofKeyed view m) := by
  refine .map fun e he => ?_
  obtain ⟨e', he', rfl⟩ := List.mem_map.mp he
  exact h e' he'

theorem ofList {σ : Schema} {view : α → Value ρ} {xs : List α}
    (h : ∀ x ∈ xs, Shaped σ (view x)) : Shaped (.list σ) (Value.ofList view xs) := by
  refine .list fun v hv => ?_
  obtain ⟨x, hx, rfl⟩ := List.mem_map.mp hv
  exact h x hx

theorem text? (o : Option String) : Shaped (ρ := ρ) .plain (ofText? o) :=
  ofOption fun s _ => text s

theorem bool? (o : Option Bool) : Shaped (ρ := ρ) .plain (ofFlag? o) :=
  ofOption fun b _ => bool b

theorem number? (o : Option ρ) : Shaped .plain (ofNumber? o) :=
  ofOption fun n _ => number n

theorem word? [Vocabulary α] (o : Option α) : Shaped (ρ := ρ) .plain (ofWord? o) :=
  ofOption fun a _ => word a

theorem texts (xs : List String) : Shaped (ρ := ρ) (.list .plain) (ofTexts xs) :=
  ofList fun s _ => text s

end Shaped

open Shaped

/-! ## Records of a session -/

theorem SessionIds.shaped (i : SessionIds) : Shaped (ρ := ρ) schema i.view :=
  .record (by decide) <| .cons (text _) <| .cons (text _) <| .cons (text? _) <| .cons (text _) <|
    .cons (text _) <| .cons (text? _) <| .cons (text? _) .nil

theorem Accessibility.shaped (a : Accessibility ρ) : Shaped schema a.view :=
  .record (by decide) <| .cons (bool _) <| .cons (bool _) <| .cons (bool? _) <|
    .cons (number? _) <| .cons (bool? _) .nil

theorem Preference.shaped (p : Preference ρ) : Shaped schema p.view :=
  .record (by decide) <| .cons (text _) <| .cons (word _) <| .cons (number? _) .nil

theorem Preferences.shaped (p : Preferences ρ) : Shaped schema p.view := by
  have hone : ∀ o : Option (Preference ρ), Shaped Preference.schema (ofOption Preference.view o) :=
    fun _ => .ofOption fun q _ => q.shaped
  exact .record (by decide) <| .cons (hone _) <| .cons (hone _) <| .cons (hone _) .nil

theorem User.shaped (u : User ρ) : Shaped schema u.view :=
  .record (by decide) <| .cons (text? _) <| .cons (text? _) <| .cons (text? _) <|
    .cons (word? _) <| .cons (word _) <| .cons u.accessibility.shaped <|
    .cons u.preferences.shaped .nil

theorem Environment.shaped (e : Environment) : Shaped (ρ := ρ) schema e.view :=
  .record (by decide) <| .cons (word _) <| .cons (bool _) <| .cons (word? _) <|
    .cons (text? _) .nil

theorem Affect.shaped (a : Affect ρ) : Shaped schema a.view :=
  .record (by decide) <| .cons (number? _) <| .cons (number? _) <| .cons (number? _) .nil

theorem Metrics.shaped [Scalar ρ] (m : Metrics ρ) : Shaped schema m.view :=
  .record (by decide) <| .cons (number _) <| .cons (number _) <| .cons (number _) <|
    .cons (number _) <| .cons (number _) <| .cons (.ofOption fun a _ => a.shaped) <|
    .cons (number _) .nil

theorem SkillStats.shaped [Scalar ρ] (s : SkillStats ρ) : Shaped schema s.view :=
  .record (by decide) <| .cons (number _) <| .cons (number _) <| .cons (number _) <|
    .cons (number? _) .nil

theorem StickyRecord.shaped (r : StickyRecord ρ) : Shaped schema r.view :=
  .record (by decide) <| .cons (text _) <| .cons (number _) <| .cons (word _) <|
    .cons (number? _) <| .cons (word _) <| .cons (word? _) .nil

theorem SoftOverrides.shaped (s : SoftOverrides) : Shaped (ρ := ρ) schema s.view :=
  .record (by decide) <| .cons (text? _) <| .cons (word? _) .nil

theorem Overrides.shaped (o : Overrides ρ) : Shaped schema o.view :=
  .record (by decide) <| .cons (.ofKeyed fun e _ => text e.2) <| .cons (word? _) <|
    .cons (text? _) <| .cons (bool? _) <| .cons (.ofOption fun w _ => w.shaped) <|
    .cons (word? _) <| .cons (number? _) .nil

theorem PolicyCaps.shaped [Scalar ρ] (c : PolicyCaps) : Shaped (ρ := ρ) schema c.view :=
  .record (by decide) <| .cons (.ofOption fun _ _ => number _) .nil

theorem PolicyInfo.shaped [Scalar ρ] (p : PolicyInfo) : Shaped (ρ := ρ) schema p.view :=
  .record (by decide) <| .cons (text _) <| .cons (.ofOption fun c _ => c.shaped) <|
    .cons (text? _) .nil

theorem TraceEvent.shaped (e : TraceEvent ρ) : Shaped schema e.view :=
  .record (by decide) <| .cons (text _) <| .cons (number _) <|
    .cons (.ofOption fun m _ => .plain (.object m)) .nil

/-- A remembered choice that is a record, or null. -/
def StickyEntry.IsSettled : StickyEntry ρ → Prop
  | record _ => True
  | raw d    => d = .null

theorem StickyEntry.IsSettled.shaped {e : StickyEntry ρ} (h : e.IsSettled) :
    Shaped StickyRecord.schema e.view := by
  cases e with
  | record r => exact r.shaped
  | raw d =>
      cases h
      exact .null _

/-- **A session has the declared shape**, if its remembered choices are records or null. -/
theorem Session.shaped [Scalar ρ] {s : Session ρ} (h : ∀ e ∈ s.sticky, e.2.IsSettled) :
    Shaped schema s.view :=
  .record (by decide) <| .cons s.ids.shaped <| .cons s.user.shaped <| .cons s.env.shaped <|
    .cons s.metrics.shaped <| .cons (.ofKeyed fun e _ => e.2.shaped) <|
    .cons (.ofKeyed fun e he => (h e he).shaped) <| .cons (.ofOption fun o _ => o.shaped) <|
    .cons (.ofKeyed fun e _ => texts e.2) <| .cons s.policy.shaped <|
    .cons (.ofList fun e _ => e.shaped) .nil

/-! ## Records of a variant -/

theorem VariantAccessibility.shaped (a : VariantAccessibility) : Shaped (ρ := ρ) schema a.view :=
  .record (by decide) <| .cons (bool? _) <| .cons (bool? _) <| .cons (bool? _) .nil

theorem VariantMeta.shaped (m : VariantMeta ρ) : Shaped schema m.view := by
  have hdevices : Shaped (ρ := ρ) (.list .plain) (ofOption (ofList ofWord) m.deviceFit) :=
    .ofOption fun _ _ => .ofList fun d _ => word d
  have htexts : ∀ o : Option (List String),
      Shaped (ρ := ρ) (.list .plain) (ofOption ofTexts o) :=
    fun _ => .ofOption fun xs _ => texts xs
  exact .record (by decide) <| .cons (word? _) <| .cons (word? _) <| .cons (word? _) <|
    .cons (number? _) <| .cons (text? _) <| .cons (word? _) <| .cons hdevices <|
    .cons (.ofOption fun a _ => a.shaped) <| .cons (htexts _) <| .cons (text? _) <|
    .cons (htexts _) <| .cons (text? _) .nil

theorem ScoreWeights.shaped (w : ScoreWeights ρ) : Shaped schema w.view :=
  .record (by decide) <| .cons (number? _) <| .cons (number? _) <|
    .cons (.ofOption fun _ _ => .ofKeyed fun e _ => number e.2) .nil

theorem StickyConfig.shaped (c : StickyConfig) : Shaped (ρ := ρ) schema c.view :=
  .record (by decide) <| .cons (word? _) <| .cons (word? _) .nil

/-- **A variant has the declared shape**, unless it holds a test of the caller's own. -/
theorem Variant.shaped {v : Variant ρ} (h : ∀ run, v.guard ≠ some (.test run)) :
    Shaped schema v.view := by
  have hguard : Shaped .plain (ofOption Guard.view v.guard) := by
    refine .ofOption fun g hg => ?_
    cases g with
    | text s => exact text s
    | test run => exact absurd hg (h run)
  exact .record (by decide) <| .cons (text _) <| .cons v.labels.shaped <| .cons hguard <|
    .cons (.ofOption fun w _ => w.shaped) <| .cons (.ofOption fun c _ => c.shaped) .nil

end LessonVariants
