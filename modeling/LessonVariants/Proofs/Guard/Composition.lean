import LessonVariants.Proofs.Guard.Verdict

/-! # Guards compose as text

    Conjunction, disjunction and negation of guards can be written on their texts.  What the
    composed text passes follows from what its parts do, with one difference to ordinary logic: a
    guard whose evaluation fails neither passes nor is its negation passed, and behind a failing
    left side a disjunction does not pass either. -/

namespace LessonVariants

variable {ρ : Type} [Scalar ρ] {scope : Root → Value ρ}

/-! ## The truth of composed expressions -/

/-- The expression has a value within an allowance, and this is its truth. -/
def Expr.Truth (scope : Root → Value ρ) (e : Expr) (d : Nat) (b : Bool) : Prop :=
  ∃ v, e.evalWithin scope d = .ok v ∧ v.isTrue = b

namespace Expr

/-- An expression is not both true and false. -/
theorem Truth.unique {e : Expr} {d : Nat} {b c : Bool} (h : e.Truth scope d b)
    (h' : e.Truth scope d c) : b = c := by
  obtain ⟨v, hv, rfl⟩ := h
  obtain ⟨w, hw, rfl⟩ := h'
  rw [hv] at hw
  rw [Except.ok.inj hw]

/-- An expression keeps its truth within a larger allowance. -/
theorem Truth.mono {e : Expr} {d k : Nat} {b : Bool} (hdk : d ≤ k) (h : e.Truth scope d b) :
    e.Truth scope k b := by
  obtain ⟨v, hv, hb⟩ := h
  have hcut := (e.evalWithin_cut scope hdk).eq (by rw [hv]; exact fun h => nomatch h)
  exact ⟨v, hcut.symm.trans hv, hb⟩

/-- An expression has its truth already within an allowance that it does not use up. -/
theorem Truth.within {e : Expr} {d k : Nat} {b : Bool} (hdk : d ≤ k) (h : e.Truth scope k b)
    (hdeep : e.evalWithin scope d ≠ .error .tooDeep) : e.Truth scope d b := by
  obtain ⟨v, hv, hb⟩ := h
  exact ⟨v, ((e.evalWithin_cut scope hdk).eq hdeep).trans hv, hb⟩

theorem truth_not {e : Expr} {d : Nat} {b : Bool} :
    (Expr.not e).Truth scope (d + 1) b ↔ e.Truth scope d (!b) := by
  constructor
  · rintro ⟨v, h, rfl⟩
    obtain ⟨w, hw, heq⟩ := bind_eq_ok.mp h
    cases heq
    exact ⟨w, hw, (Bool.not_not _).symm⟩
  · rintro ⟨w, hw, hb⟩
    refine ⟨.bool !w.isTrue, bind_eq_ok.mpr ⟨w, hw, rfl⟩, ?_⟩
    rw [show (Value.bool !w.isTrue : Value ρ).isTrue = !w.isTrue from rfl, hb, Bool.not_not]

theorem truth_and {e f : Expr} {d : Nat} :
    (Expr.and e f).Truth scope (d + 1) true ↔
      e.Truth scope d true ∧ f.Truth scope d true := by
  constructor
  · rintro ⟨v, h, hv⟩
    obtain ⟨a, ha, hrest⟩ := bind_eq_ok.mp h
    by_cases htrue : a.isTrue = true
    · rw [if_pos htrue] at hrest
      obtain ⟨b, hb, heq⟩ := bind_eq_ok.mp hrest
      cases heq
      exact ⟨⟨a, ha, htrue⟩, ⟨b, hb, hv⟩⟩
    · rw [if_neg htrue] at hrest
      cases hrest
      exact nomatch hv
  · rintro ⟨⟨a, ha, htrue⟩, ⟨b, hb, hv⟩⟩
    refine ⟨.bool b.isTrue, bind_eq_ok.mpr ⟨a, ha, ?_⟩, hv⟩
    rw [if_pos htrue]
    exact bind_eq_ok.mpr ⟨b, hb, rfl⟩

theorem truth_or {e f : Expr} {d : Nat} :
    (Expr.or e f).Truth scope (d + 1) true ↔
      e.Truth scope d true ∨ e.Truth scope d false ∧ f.Truth scope d true := by
  constructor
  · rintro ⟨v, h, hv⟩
    obtain ⟨a, ha, hrest⟩ := bind_eq_ok.mp h
    by_cases htrue : a.isTrue = true
    · exact Or.inl ⟨a, ha, htrue⟩
    · rw [if_neg htrue] at hrest
      obtain ⟨b, hb, heq⟩ := bind_eq_ok.mp hrest
      cases heq
      exact Or.inr ⟨⟨a, ha, Bool.eq_false_iff.mpr htrue⟩, ⟨b, hb, hv⟩⟩
  · rintro (⟨a, ha, htrue⟩ | ⟨⟨a, ha, hfalse⟩, ⟨b, hb, hv⟩⟩)
    · refine ⟨.bool true, bind_eq_ok.mpr ⟨a, ha, ?_⟩, rfl⟩
      rw [if_pos htrue]
      rfl
    · refine ⟨.bool b.isTrue, bind_eq_ok.mpr ⟨a, ha, ?_⟩, hv⟩
      rw [if_neg (by rw [hfalse]; exact Bool.false_ne_true)]
      exact bind_eq_ok.mpr ⟨b, hb, rfl⟩

/-! ## The allowance of the parts -/

theorem ne_tooDeep_of_not {e : Expr} {d : Nat}
    (h : (Expr.not e).evalWithin scope (d + 1) ≠ .error .tooDeep) :
    e.evalWithin scope d ≠ .error .tooDeep :=
  fun he => h (bind_eq_error.mpr (Or.inl he))

theorem ne_tooDeep_of_and {e f : Expr} {d : Nat}
    (h : (Expr.and e f).evalWithin scope (d + 1) ≠ .error .tooDeep) :
    e.evalWithin scope d ≠ .error .tooDeep ∧
      (e.Truth scope d true → f.evalWithin scope d ≠ .error .tooDeep) := by
  refine ⟨fun he => h (bind_eq_error.mpr (Or.inl he)), ?_⟩
  rintro ⟨a, ha, htrue⟩ hf
  refine h (bind_eq_error.mpr (Or.inr ⟨a, ha, ?_⟩))
  rw [if_pos htrue]
  exact bind_eq_error.mpr (Or.inl hf)

theorem ne_tooDeep_of_or {e f : Expr} {d : Nat}
    (h : (Expr.or e f).evalWithin scope (d + 1) ≠ .error .tooDeep) :
    e.evalWithin scope d ≠ .error .tooDeep ∧
      (e.Truth scope d false → f.evalWithin scope d ≠ .error .tooDeep) := by
  refine ⟨fun he => h (bind_eq_error.mpr (Or.inl he)), ?_⟩
  rintro ⟨a, ha, hfalse⟩ hf
  refine h (bind_eq_error.mpr (Or.inr ⟨a, ha, ?_⟩))
  rw [if_neg (by rw [hfalse]; exact Bool.false_ne_true)]
  exact bind_eq_error.mpr (Or.inl hf)

/-! ## Parts with the allowance of the whole -/

/-- Without allowance an expression has no truth. -/
theorem not_truth_zero (e : Expr) (b : Bool) : ¬e.Truth scope 0 b := by
  rintro ⟨v, hv, -⟩
  cases e <;> cases hv

/-- What does not run out of an allowance has one. -/
theorem exists_succ_of_ne_tooDeep {e : Expr} {d : Nat} (h : e.evalWithin scope d ≠ .error .tooDeep) :
    ∃ k, d = k + 1 := by
  cases d with
  | zero => exact absurd (by cases e <;> rfl) h
  | succ k => exact ⟨k, rfl⟩

/-- A conjunction is true just if both sides are, each by itself. -/
theorem truth_and_alone {e f : Expr} {d : Nat}
    (hdeep : (Expr.and e f).evalWithin scope d ≠ .error .tooDeep) :
    (Expr.and e f).Truth scope d true ↔ e.Truth scope d true ∧ f.Truth scope d true := by
  obtain ⟨d, rfl⟩ := exists_succ_of_ne_tooDeep hdeep
  have hle := Nat.le_succ d
  obtain ⟨he, hf⟩ := ne_tooDeep_of_and hdeep
  refine truth_and.trans ⟨fun ⟨h, h'⟩ => ⟨h.mono hle, h'.mono hle⟩, ?_⟩
  -- the right side has its truth within the smaller allowance only because the left side is true:
  -- otherwise it is not evaluated, and nothing is known of its depth
  rintro ⟨h, h'⟩
  have hleft := h.within hle he
  exact ⟨hleft, h'.within hle (hf hleft)⟩

/-- A disjunction is true just if its left side is, or its left side is false and its right side is
    true. -/
theorem truth_or_alone {e f : Expr} {d : Nat}
    (hdeep : (Expr.or e f).evalWithin scope d ≠ .error .tooDeep) :
    (Expr.or e f).Truth scope d true ↔
      e.Truth scope d true ∨ e.Truth scope d false ∧ f.Truth scope d true := by
  obtain ⟨d, rfl⟩ := exists_succ_of_ne_tooDeep hdeep
  have hle := Nat.le_succ d
  obtain ⟨he, hf⟩ := ne_tooDeep_of_or hdeep
  refine truth_or.trans ⟨?_, ?_⟩
  · exact Or.imp (fun h => h.mono hle) (fun ⟨h, h'⟩ => ⟨h.mono hle, h'.mono hle⟩)
  · rintro (h | ⟨h, h'⟩)
    · exact Or.inl (h.within hle he)
    · have hleft := h.within hle he
      exact Or.inr ⟨hleft, h'.within hle (hf hleft)⟩

/-- A negation is true just if what it negates is false. -/
theorem truth_not_alone {e : Expr} {d : Nat}
    (hdeep : (Expr.not e).evalWithin scope d ≠ .error .tooDeep) :
    (Expr.not e).Truth scope d true ↔ e.Truth scope d false := by
  obtain ⟨d, rfl⟩ := exists_succ_of_ne_tooDeep hdeep
  have hle := Nat.le_succ d
  exact truth_not.trans ⟨fun h => h.mono hle, fun h => h.within hle (ne_tooDeep_of_not hdeep)⟩

/-- An expression and its negation are not both true. -/
theorem Truth.not_not {e : Expr} {d : Nat} (h : e.Truth scope d true)
    (h' : (Expr.not e).Truth scope d true) : False := by
  cases d with
  | zero => exact not_truth_zero _ _ h
  | succ d =>
      -- the negation spends a level, so the expression is false within a smaller allowance only
      have hfalse := (truth_not.mp h').mono (Nat.le_succ d)
      cases h.unique hfalse

end Expr

/-! ## Composed texts -/

/-- Guard text passes an activation: compiled, it is a predicate that holds of it. -/
def GuardCache.Passes (cache : GuardCache) (room : Room) (source : String) (a : Activation ρ) :
    Prop :=
  cache.answer room (some (.text source)) a = .ok true

section

variable {cache : GuardCache} {room : Room} {source : String} {a : Activation ρ}

/-- Text passes if it is blank, or if it parses as an expression that is true. -/
theorem GuardCache.Reachable.passes_text (h : cache.Reachable (CutAlike room.parsing)) :
    cache.Passes room source a ↔
      isBlankText source = true ∨
        ∃ e, parseGuard room.parsing source = .ok e ∧ e.Truth a.scope room.evaluation true := by
  rw [GuardCache.Passes, GuardCache.answer_text]
  refine GuardCache.textVerdict_eq_true.trans (or_congr_right ?_)
  rw [h.reading_eq]
  constructor
  · rintro ⟨e, v, hparse, heval, hv⟩
    exact ⟨e, GuardCache.parse_eq_some.mp hparse, v, heval, hv⟩
  · rintro ⟨e, hparse, v, heval, hv⟩
    exact ⟨e, v, GuardCache.parse_eq_some.mpr hparse, heval, hv⟩

/-- Text that parses passes just if its expression is true. -/
theorem GuardCache.Reachable.passes_iff (h : cache.Reachable (CutAlike room.parsing)) {e : Expr}
    (hparse : parseGuard room.parsing source = .ok e) :
    cache.Passes room source a ↔ e.Truth a.scope room.evaluation true := by
  rw [h.passes_text, not_blank_of_parseGuard hparse, or_iff_right (fun h => nomatch h)]
  constructor
  · rintro ⟨f, hf, htrue⟩
    rw [hparse] at hf
    cases hf
    exact htrue
  · intro htrue
    exact ⟨e, hparse, htrue⟩

/-- What passes is not nested too deeply. -/
theorem GuardCache.Reachable.ne_tooDeep_of_passes (h : cache.Reachable (CutAlike room.parsing))
    (hpass : cache.Passes room source a) : parseGuard room.parsing source ≠ .error .tooDeep := by
  intro hdeep
  rcases h.passes_text.mp hpass with hblank | ⟨e, hparse, -⟩
  · rw [parseGuard_blank hblank] at hdeep
    exact nomatch hdeep
  · rw [hparse] at hdeep
    exact nomatch hdeep

end

/-- **Guards compose as text.**  Nesting aside, the composed texts parse as the composed
    expressions.  The conjunction passes just if both parts do.  The disjunction passes just if its
    left part does, or its left part has a false value and its right part passes.  The negation
    passes just if the part has a false value, so that a guard and its negation never both pass, and
    neither does just if the evaluation of the guard fails.  This holds in every room, and each text may
    be compiled in a state of the cache of its own, as long as the calls of its past ran out of room on
    the texts on which one of now would. -/
theorem guards_compose (room : Room) (cache : String → GuardCache)
    (hcache : ∀ s, (cache s).Reachable (CutAlike room.parsing)) {A B : String} {e f : Expr}
    (hA : parseGuard room.parsing A = .ok e) (hB : parseGuard room.parsing B = .ok f)
    (a : Activation ρ) :
    let passes := fun s => (cache s).Passes room s a
    let value := fun g => Expr.evalWithin a.scope g room.evaluation
    let isFalse := ∃ v, value e = .ok v ∧ v.isTrue = false
    let fits := fun s g => parseGuard room.parsing s ≠ .error .tooDeep ∧ value g ≠ .error .tooDeep
    CutAt .tooDeep (parseGuard room.parsing (bothText A B)) (.ok (.and e f)) ∧
    CutAt .tooDeep (parseGuard room.parsing (eitherText A B)) (.ok (.or e f)) ∧
    CutAt .tooDeep (parseGuard room.parsing (negatedText A)) (.ok (.not e)) ∧
    (fits (bothText A B) (.and e f) → (passes (bothText A B) ↔ passes A ∧ passes B)) ∧
    (fits (eitherText A B) (.or e f) →
      (passes (eitherText A B) ↔ passes A ∨ isFalse ∧ passes B)) ∧
    (fits (negatedText A) (.not e) → (passes (negatedText A) ↔ isFalse)) ∧
    ¬(passes A ∧ passes (negatedText A)) ∧
    (fits (negatedText A) (.not e) →
      (¬passes A ∧ ¬passes (negatedText A) ↔ ∃ err, value e = .error err)) := by
  intro passes value isFalse fits
  have hboth := ((parseGuard_denotes hA).both (parseGuard_denotes hB)).parseGuard room.parsing
  have heither := ((parseGuard_denotes hA).either (parseGuard_denotes hB)).parseGuard room.parsing
  have hnegated := (parseGuard_denotes hA).negated.parseGuard room.parsing
  have hpassA : passes A ↔ e.Truth a.scope room.evaluation true := (hcache A).passes_iff hA
  have hpassB : passes B ↔ f.Truth a.scope room.evaluation true := (hcache B).passes_iff hB
  have hneg : fits (negatedText A) (.not e) → (passes (negatedText A) ↔ isFalse) := by
    rintro ⟨hparse, hdeep⟩
    exact ((hcache _).passes_iff (hnegated.resolve_left hparse)).trans (Expr.truth_not_alone hdeep)
  refine ⟨hboth, heither, hnegated, ?_, ?_, hneg, ?_, ?_⟩
  · rintro ⟨hparse, hdeep⟩
    rw [hpassA, hpassB]
    exact ((hcache _).passes_iff (hboth.resolve_left hparse)).trans (Expr.truth_and_alone hdeep)
  · rintro ⟨hparse, hdeep⟩
    rw [hpassA, hpassB]
    exact ((hcache _).passes_iff (heither.resolve_left hparse)).trans (Expr.truth_or_alone hdeep)
  · rintro ⟨hyes, hno⟩
    have hparse := hnegated.resolve_left ((hcache _).ne_tooDeep_of_passes hno)
    exact (hpassA.mp hyes).not_not (((hcache _).passes_iff hparse).mp hno)
  · intro hfits
    rw [hpassA, hneg hfits]
    constructor
    · rintro ⟨hyes, hno⟩
      cases heval : e.evalWithin a.scope room.evaluation with
      | error err => exact ⟨err, heval⟩
      | ok v =>
          cases hv : v.isTrue with
          | true => exact absurd ⟨v, heval, hv⟩ hyes
          | false => exact absurd ⟨v, heval, hv⟩ hno
    · rintro ⟨err, heval⟩
      refine ⟨?_, ?_⟩
      · rintro ⟨v, hv, -⟩
        exact nomatch heval.symm.trans hv
      · rintro ⟨v, hv, -⟩
        exact nomatch heval.symm.trans hv

/-- The composed texts of `slotId == 's'` and `!false` pass a slot of that name. -/
theorem guards_compose_slotId :
    let room : Room := ⟨970, 970⟩
    let session : Session Rat := { metrics := Metrics.initial }
    let a : Activation Rat := ⟨session, "s", { id := "v" }⟩
    let e : Expr := .compare .equal (.path .slotId []) (.literal (.text "s"))
    let f : Expr := .not (.literal (.bool false))
    GuardCache.Reachable (CutAlike room.parsing) {} ∧
      parseGuard room.parsing "slotId == 's'" = .ok e ∧ parseGuard room.parsing "!false" = .ok f ∧
      ({} : GuardCache).Passes room (bothText "slotId == 's'" "!false") a ∧
      ¬({} : GuardCache).Passes room (negatedText "slotId == 's'") a := by
  intro room session a e f
  have hA : parseGuard room.parsing "slotId == 's'" = .ok e := rfl
  have hB : parseGuard room.parsing "!false" = .ok f := rfl
  have hparse : parseGuard room.parsing (bothText "slotId == 's'" "!false") = .ok (.and e f) := rfl
  have hdeep : (Expr.and e f).evalWithin a.scope room.evaluation = .ok (.bool true) := by cbv
  have htrueA : e.evalWithin a.scope room.evaluation = .ok (.bool true) := by cbv
  have htrueB : f.evalWithin a.scope room.evaluation = .ok (.bool true) := by cbv
  obtain ⟨-, -, -, hboth, -, -, hnot, -⟩ :=
    guards_compose room (fun _ => {}) (fun _ => .start) hA hB a
  have hpassA := (GuardCache.Reachable.start.passes_iff hA).mpr ⟨_, htrueA, rfl⟩
  have hpassB := (GuardCache.Reachable.start.passes_iff hB).mpr ⟨_, htrueB, rfl⟩
  refine ⟨.start, hA, hB, (hboth ⟨?_, ?_⟩).mpr ⟨hpassA, hpassB⟩, fun hno => hnot ⟨hpassA, hno⟩⟩
  · rw [hparse]
    simp
  · show (Expr.and e f).evalWithin a.scope room.evaluation ≠ .error .tooDeep
    rw [hdeep]
    simp

end LessonVariants
