import LessonVariants.Proofs.Guard.EarliestError
import LessonVariants.Proofs.Guard.Tiling
import LessonVariants.Proofs.Guard.Verdict
import Mathlib.Data.List.DropRight

/-! # What authors are told and what is compiled

    Text without tokens is blank (`lex_eq_nil_iff`), which is what trimming leaves nothing of.  It is
    valid and means no guard.  Other text is valid just if it parses (`checkGuard_valid_iff`), and its
    author is never told that it is empty.  Compiling parses the same text, so what an author is told
    agrees with what the cache keeps (`checking_agrees_with_compiling`). -/

namespace LessonVariants

/-! ## Blank text -/

/-- Trimming leaves nothing just if everything may be trimmed. -/
theorem trimEnds_eq_nil_iff {p : Char → Bool} {cs : List Char} :
    trimEnds p cs = [] ↔ cs.all p = true := by
  show (cs.dropWhile p).rdropWhile p = [] ↔ cs.all p = true
  rw [List.rdropWhile_eq_nil_iff, List.all_eq_true]
  constructor
  · intro h c hc
    rw [← List.takeWhile_append_dropWhile (p := p) (l := cs)] at hc
    rcases List.mem_append.mp hc with hfront | hback
    · exact List.mem_takeWhile_imp hfront
    · exact h c hback
  · intro h c hc
    exact h c ((List.dropWhile_sublist p).mem hc)

/-- A scan that finds no tokens and leaves nothing passes blanks only. -/
theorem Scan.all_blank {p q : Nat} {cs : List Char} (h : Scan p cs [] q []) :
    cs.all isBlank = true := by
  generalize hts : ([] : List Located) = ts at h
  generalize hrest : ([] : List Char) = rest at h
  induction h with
  | stop p cs =>
      rw [← hrest]
      rfl
  | blank hc _ ih =>
      rw [List.all_cons, hc, ih hts hrest]
      rfl
  | lexeme _ _ _ _ => exact nomatch hts

/-- **Text has no tokens just if it is blank.** -/
theorem lex_eq_nil_iff {source : String} : lex source = .ok [] ↔ isBlankText source = true := by
  constructor
  · intro h
    obtain ⟨q, hscan⟩ := lex_eq_ok.mp h
    exact hscan.all_blank
  · intro h
    exact lexFrom_blanks h 0

/-! ## The verdict of an author's check -/

section

variable {d : Nat}

theorem checkGuard_blank {source : String} (h : isBlankText source = true) :
    checkGuard d source = .ok .valid :=
  if_pos h

/-- Text that is not blank is checked by parsing it. -/
theorem checkGuard_text {source : String} (h : isBlankText source = false) :
    checkGuard d source =
      match parseGuard d source with
      | .ok _                    => .ok .valid
      | .error (.complaint c p)  => .ok (.invalid (c.message p))
      | .error .tooDeep          => .ok (.invalid "Expression is nested too deeply")
      | .error .oversizedInteger => .error .oversizedInteger :=
  if_neg (by rw [h]; exact Bool.false_ne_true)

/-- Text that is not blank is valid just if it parses. -/
theorem checkGuard_valid_iff {source : String} (h : isBlankText source = false) :
    checkGuard d source = .ok .valid ↔ ∃ e, parseGuard d source = .ok e := by
  rw [checkGuard_text h]
  cases parseGuard d source with
  | ok e => exact iff_of_true rfl ⟨e, rfl⟩
  | error m =>
      refine iff_of_false (fun hvalid => ?_) (fun ⟨e, he⟩ => nomatch he)
      cases m <;> exact nomatch hvalid

/-- Text is invalid because parsing complains about it, or gives up on its nesting. -/
theorem checkGuard_invalid {source reason : String} (h : checkGuard d source = .ok (.invalid reason)) :
    isBlankText source = false ∧
      ((∃ c p, parseGuard d source = .error (.complaint c p) ∧ reason = c.message p) ∨
        parseGuard d source = .error .tooDeep ∧ reason = "Expression is nested too deeply") := by
  cases hblank : isBlankText source with
  | true =>
      rw [checkGuard_blank hblank] at h
      exact nomatch h
  | false =>
      refine ⟨rfl, ?_⟩
      rw [checkGuard_text hblank] at h
      cases hparse : parseGuard d source with
      | ok e => rw [hparse] at h; exact nomatch h
      | error m =>
          rw [hparse] at h
          cases m with
          | complaint c p => cases h; exact .inl ⟨c, p, rfl, rfl⟩
          | tooDeep => cases h; exact .inr ⟨rfl, rfl⟩
          | oversizedInteger => exact nomatch h

/-! ## The complaint about empty text -/

/-- A text that has tokens is not complained about as empty. -/
theorem parseGuard_not_empty {source : String} (h : isBlankText source = false) (p : Nat) :
    parseGuard d source ≠ .error (.complaint .emptyExpression p) := by
  intro hparse
  cases hlex : lex source with
  | error m =>
      rw [parseGuard, hlex] at hparse
      cases hparse
      obtain ⟨_, _, _, hc, -⟩ := lex_eq_complaint.mp hlex
      cases hc
  | ok ts =>
      have hne : ts ≠ [] := by
        rintro rfl
        rw [lex_eq_nil_iff.mp hlex] at h
        cases h
      rw [parseGuard, hlex] at hparse
      cases hstop : parseWithin d ts with
      | ok e =>
          simp only [bind, Except.bind, hstop] at hparse
          cases hparse
      | error stop =>
          simp only [bind, Except.bind, hstop] at hparse
          cases stop with
          | tooDeep => cases hparse
          | complaint c rest =>
              have hc : c ≠ .emptyExpression := (parseWithin_stops hne hstop).1
              cases c <;> cases hparse
              exact hc rfl

end

/-- A text keeps its characters when another one is added at its end. -/
theorem getElem?_toList_append {s : String} {i : Nat} {c : Char} (h : s.toList[i]? = some c)
    (t : String) : (s ++ t).toList[i]? = some c := by
  obtain ⟨hi, -⟩ := List.getElem?_eq_some_iff.mp h
  rw [String.toList_append, List.getElem?_append_left hi]
  exact h

/-- The other complaints have another second character. -/
theorem Complaint.message_second {c : Complaint} (h : c ≠ .emptyExpression) (p : Nat) :
    (c.message p).toList[1]? = some 'n' ∨ (c.message p).toList[1]? = some 'x' := by
  have hreason : c.reason.toList[1]? = some 'n' ∨ c.reason.toList[1]? = some 'x' := by
    cases c with
    | emptyExpression => exact absurd rfl h
    | unexpectedCharacter d => exact .inl (getElem?_toList_append rfl _)
    | unexpectedToken t => exact .inl (getElem?_toList_append rfl _)
    | unexpectedEnd => exact .inl rfl
    | expected o => exact .inr (getElem?_toList_append rfl _)
    | unknownName s =>
        have hname : ("Unknown name " ++ quoted s).toList[1]? = some 'n' :=
          getElem?_toList_append rfl _
        exact .inl (getElem?_toList_append (getElem?_toList_append hname _) _)
    | expectedProperty => exact .inr rfl
    | expectedIndex => exact .inr rfl
  refine hreason.imp (fun hn => ?_) (fun hx => ?_)
  · exact getElem?_toList_append (getElem?_toList_append (getElem?_toList_append hn _) _) _
  · exact getElem?_toList_append (getElem?_toList_append (getElem?_toList_append hx _) _) _

/-- Every other complaint has another text. -/
theorem Complaint.message_not_empty {c : Complaint} (h : c ≠ .emptyExpression) (p : Nat) :
    ¬"Empty expression".toList <+: (c.message p).toList := by
  rintro ⟨rest, hrest⟩
  have hsecond := Complaint.message_second h p
  rw [← hrest] at hsecond
  rcases hsecond with h | h
  · cases h
  · cases h

/-- **No author is told that text is empty.** -/
theorem checkGuard_not_empty {d : Nat} {source reason : String}
    (h : checkGuard d source = .ok (.invalid reason)) :
    ¬"Empty expression".toList <+: reason.toList := by
  obtain ⟨hblank, ⟨c, p, hparse, rfl⟩ | ⟨-, rfl⟩⟩ := checkGuard_invalid h
  · refine Complaint.message_not_empty ?_ p
    rintro rfl
    exact parseGuard_not_empty hblank p hparse
  · decide

/-! ## What the cache keeps -/

variable {ρ : Type} {calls : Nat → String → Prop} {cache : GuardCache} {d : Nat} {source : String}

/-- Text that is not blank is compiled to what the cache then keeps under it, which is what parsing the
    text gives. -/
theorem GuardCache.Reachable.compile_kept (h : cache.Reachable (CutAlike d))
    (hblank : isBlankText source = false) (hsize : ¬Oversized source) :
    ∃ c cache', cache.compile (ρ := ρ) d (some (.text source)) = .ok (.compiled c, cache') ∧
      cache'.entries.get? source = some c ∧ GuardCache.parse d source = .ok c.expr? := by
  obtain ⟨p, cache', hcompile⟩ := (h.compile_iff (ρ := ρ)).mpr hsize
  rw [compile_text hblank] at hcompile
  obtain ⟨⟨c, cache'⟩, hc, -⟩ := map_eq_ok.mp hcompile
  have hread := cache.compileText_reading d source
  rw [hc, h.reading_eq] at hread
  refine ⟨c, cache', ?_, ?_, hread.symm⟩
  · rw [compile_text hblank, hc]
    rfl
  · rcases compileText_eq_ok.mp hc with ⟨hget, rfl⟩ | ⟨-, -, -, rfl⟩
    · exact hget
    · show (cache.entries.insert source c).get? source = some c
      rw [Keyed.get?_insert, if_pos rfl]

variable [Scalar ρ]

theorem Predicate.run_compiled_some {c : Compiled} {e : Expr} (h : c.expr? = some e)
    (a : Activation ρ) (room : Nat) : (Predicate.compiled c).run a room = e.holds a.scope room := by
  simp only [run, runIn, h]

theorem Predicate.run_compiled_none {c : Compiled} (h : c.expr? = none) (a : Activation ρ)
    (room : Nat) : (Predicate.compiled c).run a room = .ok false := by
  simp only [run, runIn, h]

/-- **An author is told what compiling makes of the text.**  Take text without an integer of too many
    digits, an allowance in which it is checked and compiled, and a cache whose calls in the past ran out
    of theirs on the texts on which one of now would.  Trimming leaves nothing of the text just if it has
    no tokens.  Then it is valid, and compiled to the predicate that always holds, without changing the
    cache.  Otherwise the cache keeps what the text is compiled to.  The text is valid just if that is
    the predicate that evaluates its expression, and invalid just if it is the one that rejects.  Invalid
    text passes on no activation, and no author is told that text is empty. -/
theorem checking_agrees_with_compiling (hcache : cache.Reachable (CutAlike d))
    (hsize : ¬Oversized source) :
    (trimEnds isBlank source.toList = [] ↔ lex source = .ok []) ∧
    (lex source = .ok [] → checkGuard d source = .ok .valid ∧
      cache.compile (ρ := ρ) d (some (.text source)) = .ok (.always, cache)) ∧
    (lex source ≠ .ok [] →
      ∃ c cache', cache.compile (ρ := ρ) d (some (.text source)) = .ok (.compiled c, cache') ∧
        cache'.entries.get? source = some c ∧
        (checkGuard d source = .ok .valid ↔
          ∃ e, parseGuard d source = .ok e ∧ c.expr? = some e ∧
            ∀ (a : Activation ρ) (room : Nat),
              (Predicate.compiled c).run a room = e.holds a.scope room) ∧
        ((∃ reason, checkGuard d source = .ok (.invalid reason)) ↔
          c.expr? = none ∧
            ∀ (a : Activation ρ) (room : Nat), (Predicate.compiled c).run a room = .ok false)) ∧
    ∀ reason, checkGuard d source = .ok (.invalid reason) →
      (∀ (a : Activation ρ) (room : Nat),
        cache.answer ⟨d, room⟩ (some (.text source)) a = .ok false) ∧
      ¬"Empty expression".toList <+: reason.toList := by
  refine ⟨trimEnds_eq_nil_iff.trans lex_eq_nil_iff.symm, fun hnil => ?_, fun hne => ?_,
    fun reason hinvalid => ⟨fun a room => ?_, checkGuard_not_empty hinvalid⟩⟩
  · have hblank := lex_eq_nil_iff.mp hnil
    exact ⟨checkGuard_blank hblank, GuardCache.compile_blank hblank cache d⟩
  · have hblank : isBlankText source = false := by
      rw [← Bool.not_eq_true, ← lex_eq_nil_iff]
      exact hne
    obtain ⟨c, cache', hcompile, hget, hparse⟩ := hcache.compile_kept (ρ := ρ) hblank hsize
    have hexpr : ∀ e, c.expr? = some e ↔ parseGuard d source = .ok e := by
      intro e
      rw [← GuardCache.parse_eq_some, hparse, Except.ok.injEq]
    refine ⟨c, cache', hcompile, hget, (checkGuard_valid_iff hblank).trans ?_, ?_⟩
    · constructor
      · rintro ⟨e, he⟩
        have hkept := (hexpr e).mpr he
        exact ⟨e, he, hkept, Predicate.run_compiled_some hkept⟩
      · rintro ⟨e, he, -⟩
        exact ⟨e, he⟩
    · constructor
      · rintro ⟨reason, hinvalid⟩
        have hnone : c.expr? = none := by
          rw [Option.eq_none_iff_forall_ne_some]
          intro e he
          have hvalid := (checkGuard_valid_iff hblank).mpr ⟨e, (hexpr e).mp he⟩
          exact nomatch hvalid.symm.trans hinvalid
        exact ⟨hnone, Predicate.run_compiled_none hnone⟩
      · rintro ⟨hnone, -⟩
        obtain ⟨verdict, hverdict⟩ := (checkGuard_iff (d := d)).mpr hsize
        cases verdict with
        | invalid reason => exact ⟨reason, hverdict⟩
        | valid =>
            obtain ⟨e, he⟩ := (checkGuard_valid_iff hblank).mp hverdict
            exact nomatch hnone.symm.trans ((hexpr e).mpr he)
  · have hblank := (checkGuard_invalid hinvalid).1
    rw [GuardCache.answer_text]
    refine GuardCache.textVerdict_eq_false.mpr ⟨hblank, fun m hread => ?_, fun e hread => ?_⟩
    · exact hsize (hcache.reading_eq_error.mp hread).2
    · rw [hcache.reading_eq, GuardCache.parse_eq_some] at hread
      have hvalid := (checkGuard_valid_iff hblank).mpr ⟨e, hread⟩
      exact nomatch hvalid.symm.trans hinvalid

/-- A comparison without its right side is invalid; an empty cache keeps for it the predicate that
    rejects. -/
theorem checking_agrees_with_compiling_unfinished :
    let source := "session.user.lang =="
    GuardCache.Reachable (CutAlike 970) {} ∧ ¬Oversized source ∧
      checkGuard 970 source = .ok (.invalid (Complaint.unexpectedEnd.message 20)) ∧
      lex source ≠ .ok [] ∧
      (∃ c cache', GuardCache.compile (ρ := Number) {} 970 (some (.text source))
          = .ok (.compiled c, cache') ∧
        cache'.entries.get? source = some c ∧ c.expr? = none) ∧
      ∀ a : Activation Number, GuardCache.answer {} ⟨970, 970⟩ (some (.text source)) a = .ok false := by
  intro source
  have hparse : parseGuard 970 source = .error (.complaint .unexpectedEnd 20) := by decide +kernel
  have hsize : ¬Oversized source := by
    rw [← parseGuard_oversized (d := 970), hparse]
    exact fun h => nomatch h
  have hinvalid : checkGuard 970 source = .ok (.invalid (Complaint.unexpectedEnd.message 20)) := by
    rw [checkGuard_text (by decide), hparse]
  have htokens : lex source ≠ .ok [] := by
    rw [Ne, lex_eq_nil_iff]
    decide
  obtain ⟨-, -, hkept, hrejected⟩ :=
    checking_agrees_with_compiling (ρ := Number) (d := 970) .start hsize
  obtain ⟨c, cache', hcompile, hget, -, hrejects⟩ := hkept htokens
  exact ⟨.start, hsize, hinvalid, htokens, ⟨c, cache', hcompile, hget, (hrejects.mp ⟨_, hinvalid⟩).1⟩,
    fun a => (hrejected _ hinvalid).1 a 970⟩

end LessonVariants
