import LessonVariants.Proofs.Guard.CacheHistory
import LessonVariants.Proofs.Guard.Evaluation

/-! # When guards pass and when they have no verdict

    A guard text passes if it is blank, or if an expression is read in it that has a true value.  It has
    no verdict in two cases only (`Escapes`): one of its integers has too many digits, or the evaluation
    of its expression fails beyond repair.  In every other case it answers, and what does not parse or
    has no value answers with false. -/

namespace LessonVariants

variable {ρ : Type}

/-! ## Compiling and checking -/

section

variable {calls : Nat → String → Prop} {cache : GuardCache} {d : Nat} {source : String}

/-- Text compiles unless one of its integers has too many digits. -/
theorem GuardCache.Reachable.compile_iff (h : cache.Reachable calls) :
    (∃ p cache', cache.compile (ρ := ρ) d (some (.text source)) = .ok (p, cache')) ↔
      ¬Oversized source := by
  cases hblank : isBlankText source with
  | true =>
      refine iff_of_true ⟨.always, cache, compile_blank hblank cache d⟩ fun hover => ?_
      rw [hover.not_blank] at hblank
      exact nomatch hblank
  | false =>
      have hread := cache.compileText_reading d source
      rw [compile_text hblank]
      constructor
      · rintro ⟨p, cache', hc⟩ hover
        obtain ⟨r, hr, -⟩ := map_eq_ok.mp hc
        rw [hr, h.reading_eq_error.mpr ⟨rfl, hover⟩] at hread
        exact nomatch hread
      · intro hover
        cases hc : cache.compileText d source with
        | ok r => exact ⟨_, _, rfl⟩
        | error m =>
            rw [hc] at hread
            exact absurd (h.reading_eq_error.mp hread.symm).2 hover

/-- An author is told about text unless one of its integers has too many digits. -/
theorem checkGuard_iff : (∃ verdict, checkGuard d source = .ok verdict) ↔ ¬Oversized source := by
  rw [← parseGuard_oversized (d := d)]
  unfold checkGuard
  cases hblank : isBlankText source with
  | true =>
      rw [parseGuard_blank hblank]
      exact iff_of_true ⟨.valid, rfl⟩ (fun h => nomatch h)
  | false =>
      cases parseGuard d source with
      | ok e => exact iff_of_true ⟨.valid, rfl⟩ (fun h => nomatch h)
      | error m =>
          cases m with
          | oversizedInteger => exact iff_of_false (fun ⟨_, h⟩ => nomatch h) (fun h => h rfl)
          | _ => exact iff_of_true ⟨_, rfl⟩ (fun h => nomatch h)

end

variable [Scalar ρ]

/-! ## The truth of an expression -/

namespace Expr

variable {e : Expr} {scope : Root → Value ρ} {d : Nat} {v : Value ρ} {err : EvalError ρ}

theorem holds_of_ok (h : e.evalWithin scope d = .ok v) : e.holds scope d = .ok v.isTrue := by
  rw [Expr.holds, h]

theorem holds_of_fatal (h : e.evalWithin scope d = .error err) (hfatal : err.isFatal = true) :
    e.holds scope d = .error (.fatal err) := by
  rw [Expr.holds, h]
  exact if_pos hfatal

/-- An expression without a value is false, unless its evaluation fails beyond repair. -/
theorem holds_of_error (h : e.evalWithin scope d = .error err) (hfatal : err.isFatal = false) :
    e.holds scope d = .ok false := by
  rw [Expr.holds, h]
  exact if_neg (by rw [hfatal]; exact Bool.false_ne_true)

theorem holds_eq_true :
    e.holds scope d = .ok true ↔ ∃ v, e.evalWithin scope d = .ok v ∧ v.isTrue = true := by
  constructor
  · intro h
    cases heval : e.evalWithin scope d with
    | ok v =>
        rw [holds_of_ok heval] at h
        exact ⟨v, rfl, Except.ok.inj h⟩
    | error err =>
        cases hfatal : err.isFatal with
        | true => rw [holds_of_fatal heval hfatal] at h; exact nomatch h
        | false => rw [holds_of_error heval hfatal] at h; exact nomatch h
  · rintro ⟨v, heval, hv⟩
    rw [holds_of_ok heval, hv]

/-- An expression has no truth just if its evaluation fails beyond repair. -/
theorem holds_error_iff : (∃ f, e.holds scope d = .error f) ↔ Fatal (e.evalWithin scope d) := by
  constructor
  · rintro ⟨f, h⟩
    cases heval : e.evalWithin scope d with
    | ok v => rw [holds_of_ok heval] at h; exact nomatch h
    | error err =>
        cases hfatal : err.isFatal with
        | true => exact fatal_error.mpr hfatal
        | false => rw [holds_of_error heval hfatal] at h; exact nomatch h
  · rintro ⟨err, heval, hfatal⟩
    exact ⟨.fatal err, holds_of_fatal heval hfatal⟩

end Expr

/-! ## The verdict of guard text -/

/-- The guard texts that have no verdict where the roots have the given values: they cannot be read, or
    the evaluation of what is read in them fails beyond repair. -/
def GuardCache.Escapes (cache : GuardCache) (room : Room) (source : String)
    (scope : Root → Value ρ) : Prop :=
  isBlankText source = false ∧
    ((∃ m, cache.reading room.parsing source = .error m) ∨
      ∃ e, cache.reading room.parsing source = .ok (some e) ∧ e.Overruns scope room.evaluation)

variable {calls : Nat → String → Prop} {cache : GuardCache} {room : Room} {source : String}
  {scope : Root → Value ρ}

namespace GuardCache

/-- **Guard text passes** if it is blank, or if an expression is read in it that has a true value. -/
theorem textVerdict_eq_true :
    cache.textVerdict room source scope = .ok true ↔
      isBlankText source = true ∨
        ∃ e v, cache.reading room.parsing source = .ok (some e) ∧
          e.evalWithin scope room.evaluation = .ok v ∧ v.isTrue = true := by
  cases hblank : isBlankText source with
  | true => exact iff_of_true (textVerdict_blank hblank cache room scope) (Or.inl rfl)
  | false =>
      rw [textVerdict_text hblank, or_iff_right (fun h => nomatch h)]
      constructor
      · intro h
        cases hread : cache.reading room.parsing source with
        | error m => rw [hread] at h; exact nomatch h
        | ok expr? =>
            rw [hread] at h
            cases expr? with
            | none => exact nomatch h
            | some e =>
                obtain ⟨v, heval, hv⟩ := Expr.holds_eq_true.mp h
                exact ⟨e, v, rfl, heval, hv⟩
      · rintro ⟨e, v, hread, heval, hv⟩
        rw [hread]
        exact Expr.holds_eq_true.mpr ⟨v, heval, hv⟩

/-- **Guard text has no verdict** just if it is one of those that escape. -/
theorem textVerdict_error_iff :
    (∃ f, cache.textVerdict room source scope = .error f) ↔ cache.Escapes room source scope := by
  cases hblank : isBlankText source with
  | true =>
      rw [textVerdict_blank hblank]
      refine iff_of_false (fun ⟨f, h⟩ => nomatch h) ?_
      rintro ⟨h, -⟩
      exact nomatch hblank.symm.trans h
  | false =>
      rw [textVerdict_text hblank]
      constructor
      · rintro ⟨f, h⟩
        refine ⟨hblank, ?_⟩
        cases hread : cache.reading room.parsing source with
        | error m => exact Or.inl ⟨m, rfl⟩
        | ok expr? =>
            rw [hread] at h
            cases expr? with
            | none => exact nomatch h
            | some e =>
                have hfatal := Expr.holds_error_iff.mp ⟨f, h⟩
                exact Or.inr ⟨e, rfl, Expr.overruns_iff.mp hfatal⟩
      · rintro ⟨-, ⟨m, hread⟩ | ⟨e, hread, hover⟩⟩
        · rw [hread]
          exact ⟨_, rfl⟩
        · rw [hread]
          exact Expr.holds_error_iff.mpr (Expr.overruns_iff.mpr hover)

/-- **Guard text rejects** if it can be read, is not blank, and no expression is read in it that has a
    true value or fails beyond repair. -/
theorem textVerdict_eq_false :
    cache.textVerdict room source scope = .ok false ↔
      isBlankText source = false ∧ (∀ m, cache.reading room.parsing source ≠ .error m) ∧
        ∀ e, cache.reading room.parsing source = .ok (some e) →
          (∃ v, e.evalWithin scope room.evaluation = .ok v ∧ v.isTrue = false) ∨
          ∃ err, e.evalWithin scope room.evaluation = .error err ∧ err.isFatal = false := by
  constructor
  · intro h
    have hescapes : ¬cache.Escapes room source scope := by
      intro hescapes
      obtain ⟨f, hf⟩ := textVerdict_error_iff.mpr hescapes
      exact nomatch h.symm.trans hf
    have hblank : isBlankText source = false := by
      cases hblank : isBlankText source with
      | false => rfl
      | true => exact nomatch h.symm.trans (textVerdict_blank hblank cache room scope)
    refine ⟨hblank, fun m hread => hescapes ⟨hblank, .inl ⟨m, hread⟩⟩, fun e hread => ?_⟩
    cases heval : e.evalWithin scope room.evaluation with
    | ok v =>
        cases hv : v.isTrue with
        | false => exact Or.inl ⟨v, rfl, hv⟩
        | true =>
            have htrue := textVerdict_eq_true.mpr (Or.inr ⟨e, v, hread, heval, hv⟩)
            exact nomatch h.symm.trans htrue
    | error err =>
        cases hfatal : err.isFatal with
        | false => exact Or.inr ⟨err, rfl, hfatal⟩
        | true =>
            have hover := Expr.overruns_iff.mp ⟨err, heval, hfatal⟩
            exact absurd ⟨hblank, .inr ⟨e, hread, hover⟩⟩ hescapes
  · -- every other verdict has a cause that the three conditions exclude
    rintro ⟨hblank, hreadable, hvalue⟩
    cases h : cache.textVerdict room source scope with
    | error f =>
        obtain ⟨-, ⟨m, hread⟩ | ⟨e, hread, hoverruns⟩⟩ := textVerdict_error_iff.mp ⟨f, h⟩
        · exact absurd hread (hreadable m)
        · obtain ⟨err, heval, hfatal⟩ := Expr.overruns_iff.mpr hoverruns
          rcases hvalue e hread with ⟨v, hv, -⟩ | ⟨err', herr, hmild⟩
          · exact nomatch hv.symm.trans heval
          · cases herr.symm.trans heval
            exact nomatch hmild.symm.trans hfatal
    | ok b =>
        cases b with
        | false => rfl
        | true =>
            rcases textVerdict_eq_true.mp h with hblank' | ⟨e, v, hread, heval, hv⟩
            · exact nomatch hblank.symm.trans hblank'
            · rcases hvalue e hread with ⟨w, hw, hfalse⟩ | ⟨err, herr, -⟩
              · cases hw.symm.trans heval
                exact nomatch hfalse.symm.trans hv
              · exact nomatch herr.symm.trans heval

end GuardCache

end LessonVariants
