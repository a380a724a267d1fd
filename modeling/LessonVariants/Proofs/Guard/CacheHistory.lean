import LessonVariants.Guard.Cache
import LessonVariants.Proofs.Guard.Text

/-! # The guard cache over its history

    A cache comes from the empty one by compiling guards, each call in the room of its caller, and by
    forgetting.  What it keeps under a text is what parsing that text came to in one of these calls, and
    the text is not blank (`GuardCache.Reachable.entry`).

    What a cache answers depends on what it reads in a text: what it keeps under it, or what parsing
    gives now (`GuardCache.reading`).  Judging guards in one room leaves that as it is
    (`GuardCache.judge_reading`).  If the calls of the past that compiled a text ran out of room as one
    of now would (`CutAlike`), a cache reads in it what parsing gives now
    (`GuardCache.Reachable.reading_eq_parse`), and so its history does not show. -/

namespace LessonVariants

variable {ρ : Type}

/-- Parsing a text runs out of the second allowance just if it runs out of the first. -/
def CutAlike (d k : Nat) (source : String) : Prop :=
  parseGuard k source = .error .tooDeep ↔ parseGuard d source = .error .tooDeep

theorem CutAlike.refl (d : Nat) (source : String) : CutAlike d d source :=
  Iff.rfl

/-- Allowances that parsing runs out of together give the same outcome. -/
theorem CutAlike.parseGuard_eq {d k : Nat} {source : String} (h : CutAlike d k source) :
    parseGuard k source = parseGuard d source := by
  rcases Nat.le_total d k with hdk | hkd
  · rcases parseGuard_cut hdk source with hcut | heq
    · rw [hcut, h.mpr hcut]
    · exact heq.symm
  · rcases parseGuard_cut hkd source with hcut | heq
    · rw [hcut, h.mp hcut]
    · exact heq

namespace GuardCache

/-! ## What parsing for a cache gives -/

theorem parse_eq_some {d : Nat} {source : String} {e : Expr} :
    parse d source = .ok (some e) ↔ parseGuard d source = .ok e := by
  unfold parse
  cases parseGuard d source with
  | ok f =>
      constructor
      · intro h
        cases h
        rfl
      · intro h
        cases h
        rfl
  | error m =>
      refine iff_of_false (fun h => ?_) (fun h => nomatch h)
      cases m <;> exact nomatch h

theorem parse_eq_error {d : Nat} {source : String} {m : Malformed} :
    parse d source = .error m ↔ m = .oversizedInteger ∧ Oversized source := by
  rw [← parseGuard_oversized (d := d)]
  unfold parse
  cases parseGuard d source with
  | ok f => exact iff_of_false (fun h => nomatch h) (fun h => nomatch h.2)
  | error n =>
      cases n with
      | oversizedInteger =>
          constructor
          · intro h
            cases h
            exact ⟨rfl, rfl⟩
          · rintro ⟨rfl, -⟩
            rfl
      | _ => exact iff_of_false (fun h => nomatch h) (fun h => nomatch h.2)

/-! ## What a cache keeps -/

/-- The caches that an evaluator can have if the calls that compile text within an allowance are as
    given. -/
inductive Reachable (calls : Nat → String → Prop) : GuardCache → Prop where
  | start : Reachable calls {}
  | compile {ρ : Type} {cache cache' : GuardCache} {d : Nat} {guard : Option (Guard ρ)}
      {p : Predicate ρ} :
      Reachable calls cache → (∀ source, guard = some (.text source) → calls d source) →
      cache.compile d guard = .ok (p, cache') → Reachable calls cache'
  | clear {cache : GuardCache} : Reachable calls cache → Reachable calls cache.clear

/-- Compiling text finds it in the cache, or parses it and keeps it under a new serial number. -/
theorem compileText_eq_ok {cache cache' : GuardCache} {d : Nat} {source : String} {c : Compiled} :
    cache.compileText d source = .ok (c, cache') ↔
      cache.entries.get? source = some c ∧ cache' = cache ∨
      cache.entries.get? source = none ∧ parse d source = .ok c.expr? ∧ c.serial = cache.next ∧
        cache' = ⟨cache.entries.insert source c, cache.next + 1⟩ := by
  unfold compileText
  cases hget : cache.entries.get? source with
  | some found =>
      constructor
      · intro h
        cases h
        exact Or.inl ⟨rfl, rfl⟩
      · rintro (⟨hd, rfl⟩ | ⟨hd, -⟩)
        · cases hd
          rfl
        · exact nomatch hd
  | none =>
      cases hparse : parse d source with
      | error m =>
          refine iff_of_false (fun h => nomatch h) ?_
          rintro (⟨hd, -⟩ | ⟨-, hd, -⟩)
          · exact nomatch hd
          · exact nomatch hd
      | ok expr? =>
          constructor
          · intro h
            cases h
            exact Or.inr ⟨rfl, rfl, rfl, rfl⟩
          · rintro (⟨hd, -⟩ | ⟨-, hd, hserial, rfl⟩)
            · exact nomatch hd
            · obtain ⟨serial, expr'⟩ := c
              cases hserial
              cases hd
              rfl

/-- Blank text means no guard. -/
theorem compile_blank {source : String} (h : isBlankText source = true) (cache : GuardCache)
    (d : Nat) : cache.compile (ρ := ρ) d (some (.text source)) = .ok (.always, cache) :=
  if_pos h

/-- Other text is compiled by way of the cache. -/
theorem compile_text {source : String} (h : isBlankText source = false) (cache : GuardCache)
    (d : Nat) :
    cache.compile (ρ := ρ) d (some (.text source))
      = (cache.compileText d source).map fun (c, cache) => (.compiled c, cache) :=
  if_neg (by rw [h]; exact Bool.false_ne_true)

/-- Compiling leaves the cache as it is, or compiles text that is not blank. -/
theorem compile_cases {cache cache' : GuardCache} {d : Nat} {guard : Option (Guard ρ)}
    {p : Predicate ρ} (h : cache.compile d guard = .ok (p, cache')) :
    cache' = cache ∨ ∃ source c, guard = some (.text source) ∧ isBlankText source = false ∧
      cache.compileText d source = .ok (c, cache') ∧ p = .compiled c := by
  cases guard with
  | none => cases h; exact Or.inl rfl
  | some g =>
      cases g with
      | test run => cases h; exact Or.inl rfl
      | text source =>
          cases hblank : isBlankText source with
          | true =>
              rw [compile_blank hblank] at h
              cases h
              exact Or.inl rfl
          | false =>
              rw [compile_text hblank] at h
              obtain ⟨⟨c, cache''⟩, hc, heq⟩ := map_eq_ok.mp h
              cases heq
              exact Or.inr ⟨source, c, rfl, hblank, hc, rfl⟩

variable {calls : Nat → String → Prop} {cache cache' : GuardCache} {d : Nat}

/-- **What a cache keeps under a text is what parsing it came to in one of the calls**, and the text is
    not blank. -/
theorem Reachable.entry (h : cache.Reachable calls) :
    ∀ {source : String} {c : Compiled}, cache.entries.get? source = some c →
      isBlankText source = false ∧ ∃ d, calls d source ∧ parse d source = .ok c.expr? := by
  induction h with
  | start => intro source c hc; exact nomatch hc
  | clear _ _ => intro source c hc; exact nomatch hc
  | @compile ρ cache cache' d guard p _ hcall hcompile ih =>
      intro source c hc
      -- only compiling new text changes the entries, and that text was parsed for its entry
      rcases compile_cases hcompile with rfl | ⟨text, new, hguard, hblank, hnew, -⟩
      · exact ih hc
      · rcases compileText_eq_ok.mp hnew with ⟨-, rfl⟩ | ⟨-, hparse, -, rfl⟩
        · exact ih hc
        · rw [show (⟨cache.entries.insert text new, cache.next + 1⟩ : GuardCache).entries.get? source
            = (cache.entries.insert text new).get? source from rfl, Keyed.get?_insert] at hc
          by_cases hs : source = text
          · rw [if_pos hs] at hc
            cases hc
            rw [hs]
            exact ⟨hblank, d, hcall text hguard, hparse⟩
          · rw [if_neg hs] at hc
            exact ih hc

/-! ## What a cache reads in a text -/

/-- The expression of a text: the one that is kept under it, or what parsing within an allowance
    gives. -/
def reading (cache : GuardCache) (d : Nat) (source : String) : Except Malformed (Option Expr) :=
  match cache.entries.get? source with
  | some c => .ok c.expr?
  | none   => parse d source

/-- Compiled text has the expression that the cache reads in it, and it is an error to compile text just
    when it is one to read it. -/
theorem compileText_reading (cache : GuardCache) (d : Nat) (source : String) :
    (cache.compileText d source).map (fun r => r.1.expr?) = cache.reading d source := by
  unfold compileText reading
  cases cache.entries.get? source with
  | some c => rfl
  | none => cases parse d source <;> rfl

/-- **Compiling a guard changes nothing in what is read within the same allowance.** -/
theorem reading_of_compile {guard : Option (Guard ρ)} {p : Predicate ρ}
    (h : cache.compile d guard = .ok (p, cache')) : cache'.reading d = cache.reading d := by
  rcases compile_cases h with rfl | ⟨text, c, -, -, hc, -⟩
  · rfl
  · rcases compileText_eq_ok.mp hc with ⟨-, rfl⟩ | ⟨hnone, hparse, -, rfl⟩
    · rfl
    · funext source
      unfold reading
      rw [show (⟨cache.entries.insert text c, cache.next + 1⟩ : GuardCache).entries.get? source
        = (cache.entries.insert text c).get? source from rfl, Keyed.get?_insert]
      by_cases hs : source = text
      · -- what is kept from now on is what was parsed before
        rw [if_pos hs, hs, hnone]
        exact hparse.symm
      · rw [if_neg hs]

/-- What is read in a text is what parsing it came to, now or in a call of the past. -/
theorem Reachable.reading_cases (h : cache.Reachable calls) (d : Nat) (source : String) :
    ∃ k, (k = d ∨ calls k source) ∧ cache.reading d source = parse k source := by
  unfold reading
  cases hget : cache.entries.get? source with
  | none => exact ⟨d, .inl rfl, rfl⟩
  | some c =>
      obtain ⟨-, k, hcall, hparse⟩ := h.entry hget
      exact ⟨k, .inr hcall, hparse.symm⟩

/-- An expression that is read in a text is the one that the text denotes. -/
theorem Reachable.denotes (h : cache.Reachable calls) {source : String} {e : Expr}
    (hread : cache.reading d source = .ok (some e)) : Denotes source e := by
  obtain ⟨k, -, hparse⟩ := h.reading_cases d source
  exact parseGuard_denotes (parse_eq_some.mp (hparse.symm.trans hread))

/-- Reading text is an error just if one of its integers has too many digits. -/
theorem Reachable.reading_eq_error (h : cache.Reachable calls) {source : String} {m : Malformed} :
    cache.reading d source = .error m ↔ m = .oversizedInteger ∧ Oversized source := by
  obtain ⟨k, -, hparse⟩ := h.reading_cases d source
  rw [hparse]
  exact parse_eq_error

/-- **Where the calls of the past that compiled a text ran out of room as one of now does, a cache reads
    in it what parsing gives now.** -/
theorem Reachable.reading_eq_parse (h : cache.Reachable calls) {source : String}
    (hcut : ∀ k, calls k source → CutAlike d k source) :
    cache.reading d source = parse d source := by
  obtain ⟨k, hk, hparse⟩ := h.reading_cases d source
  have halike : CutAlike d k source := by
    rcases hk with rfl | hcall
    · exact .refl k source
    · exact hcut k hcall
  rw [hparse, parse, halike.parseGuard_eq]
  rfl

/-- If all calls of the past ran out of room as those of now do, a cache reads as parsing does. -/
theorem Reachable.reading_eq (h : cache.Reachable (CutAlike d)) (source : String) :
    cache.reading d source = parse d source :=
  h.reading_eq_parse fun _ hk => hk

/-- Caches of two such histories read the same. -/
theorem Reachable.reading_congr (h : cache.Reachable (CutAlike d))
    (h' : cache'.Reachable (CutAlike d)) : cache'.reading d = cache.reading d := by
  funext source
  rw [h.reading_eq, h'.reading_eq]

/-! ## The answer of a guard -/

variable [Scalar ρ] {room : Room}

/-- The answer of a guard on an activation: it is compiled, and its predicate is run. -/
def answer (cache : GuardCache) (room : Room) (guard : Option (Guard ρ)) (a : Activation ρ) :
    Except (GuardFailure ρ) Bool :=
  match cache.compile room.parsing guard with
  | .error m   => .error (.malformed m)
  | .ok (p, _) => p.run a room.evaluation

/-- The verdict of guard text where the roots have the given values. -/
def textVerdict (cache : GuardCache) (room : Room) (source : String) (scope : Root → Value ρ) :
    Except (GuardFailure ρ) Bool :=
  if isBlankText source then .ok true
  else
    match cache.reading room.parsing source with
    | .error m     => .error (.malformed m)
    | .ok none     => .ok false
    | .ok (some e) => e.holds scope room.evaluation

theorem textVerdict_blank {source : String} (h : isBlankText source = true) (cache : GuardCache)
    (room : Room) (scope : Root → Value ρ) : cache.textVerdict room source scope = .ok true :=
  if_pos h

theorem textVerdict_text {source : String} (h : isBlankText source = false) (cache : GuardCache)
    (room : Room) (scope : Root → Value ρ) :
    cache.textVerdict room source scope =
      match cache.reading room.parsing source with
      | .error m     => .error (.malformed m)
      | .ok none     => .ok false
      | .ok (some e) => e.holds scope room.evaluation :=
  if_neg (by rw [h]; exact Bool.false_ne_true)

/-- **Guard text answers with the verdict of what is read in it.** -/
theorem answer_text (cache : GuardCache) (room : Room) (source : String) (a : Activation ρ) :
    cache.answer room (some (.text source)) a = cache.textVerdict room source a.scope := by
  cases hblank : isBlankText source with
  | true => rw [answer, compile_blank hblank, textVerdict_blank hblank]; rfl
  | false =>
      rw [answer, compile_text hblank, textVerdict_text hblank, ← compileText_reading]
      cases cache.compileText room.parsing source with
      | error m => rfl
      | ok r =>
          obtain ⟨⟨serial, expr?⟩, cache'⟩ := r
          cases expr? <;> rfl

/-- Caches that read the same in a guard's text answer it alike. -/
theorem answer_congr {guard : Option (Guard ρ)}
    (h : ∀ source, guard = some (.text source) →
      cache'.reading room.parsing source = cache.reading room.parsing source) (a : Activation ρ) :
    cache'.answer room guard a = cache.answer room guard a := by
  cases guard with
  | none => rfl
  | some g =>
      cases g with
      | test run => rfl
      | text source => rw [answer_text, answer_text, textVerdict, textVerdict, h source rfl]

/-- Running what a guard was compiled to gives its answer. -/
theorem run_eq_answer {guard : Option (Guard ρ)} {p : Predicate ρ}
    (h : cache.compile room.parsing guard = .ok (p, cache')) (a : Activation ρ) :
    p.run a room.evaluation = cache.answer room guard a := by
  rw [answer, h]

/-- Judging an activation gives the answer of its variant's guard. -/
theorem judge_answer (cache : GuardCache) (room : Room) (a : Activation ρ) :
    (judge room a cache).1 = cache.answer room a.variant.guard a := by
  unfold judge judgeIn answer
  cases cache.compile room.parsing a.variant.guard <;> rfl

/-- **Judging changes nothing in what the cache reads in the same room.** -/
theorem judge_reading (cache : GuardCache) (room : Room) (a : Activation ρ) :
    (judge room a cache).2.reading room.parsing = cache.reading room.parsing := by
  unfold judge judgeIn
  cases hc : cache.compile room.parsing a.variant.guard with
  | error m => rfl
  | ok r => exact reading_of_compile hc

end GuardCache

end LessonVariants
