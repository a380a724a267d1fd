import LessonVariants.Proofs.Guard.CacheHistory
import LessonVariants.Proofs.Keyed
import Mathlib.Data.List.Induction

/-! # What a guard cache holds and hands out

    A caller compiles guards and forgets what was compiled.  The cache keeps the predicate of a text
    from the first compilation that returns up to the next time that everything is forgotten
    (`GuardCache.entry_iff`), and every new predicate has a serial number that none had before.  So two
    predicates that were handed out are the same object just if they come from one text and nothing was
    forgotten between them (`GuardCache.same_iff`). -/

namespace LessonVariants

variable {ρ : Type}

/-- Two predicates that are one object.  Text that is compiled anew makes a new object, and a test is the
    caller's own. -/
def Predicate.Same : Predicate ρ → Predicate ρ → Prop
  | .always,     .always     => True
  | .test f,     .test g     => f = g
  | .compiled c, .compiled d => c.serial = d.serial
  | _,           _           => False

/-- What is asked of a cache.  Each caller brings the room for parsing that the stack leaves it. -/
inductive CacheCall (ρ : Type) where
  | compile (allowance : Nat) (guard : Option (Guard ρ))
  | clear

namespace GuardCache

/-! ## Compiling in place -/

/-- Compiles a guard in place.  Parsing may fail, and a predicate is kept once it is made. -/
def compileInPlace (allowance : Nat) (guard : Option (Guard ρ)) :
    EStateM Malformed GuardCache (Predicate ρ) := do
  match guard with
  | none                => pure .always
  | some (.test t)      => pure (.test t)
  | some (.text source) =>
      if isBlankText source then pure .always
      else
        match (← get).entries.get? source with
        | some c => pure (.compiled c)
        | none   =>
            match parse allowance source with
            | .error m  => throw m
            | .ok expr? =>
                let c : Compiled := ⟨(← get).next, expr?⟩
                modify fun cache => { cache with next := cache.next + 1 }
                modify fun cache => { cache with entries := cache.entries.insert source c }
                pure (.compiled c)

/-- **Compiling in place comes to compiling**, and a failure leaves the cache as it was. -/
theorem compileInPlace_run (d : Nat) (guard : Option (Guard ρ)) (cache : GuardCache) :
    (compileInPlace d guard).run cache =
      match cache.compile d guard with
      | .ok (p, cache') => .ok p cache'
      | .error m        => .error m cache := by
  cases guard with
  | none => rfl
  | some g =>
      cases g with
      | test t => rfl
      | text source =>
          cases hblank : isBlankText source with
          | true =>
              rw [compile_blank hblank]
              simp only [compileInPlace, hblank, if_true]
              rfl
          | false =>
              rw [compile_text hblank, compileText]
              simp only [compileInPlace, hblank, Bool.false_eq_true, if_false, EStateM.run_bind,
                EStateM.run_get]
              cases cache.entries.get? source with
              | some c => rfl
              | none => cases parse d source <;> rfl

/-- The cache after a call, also after one that failed. -/
def after (cache : GuardCache) : CacheCall ρ → GuardCache
  | .clear           => cache.clear
  | .compile d guard =>
      match (compileInPlace d guard).run cache with
      | .ok _ cache'    => cache'
      | .error _ cache' => cache'

/-- The predicate that a call hands out, if it returns. -/
def handsOut? (cache : GuardCache) : CacheCall ρ → Option (Predicate ρ)
  | .clear           => none
  | .compile d guard =>
      match (compileInPlace d guard).run cache with
      | .ok p _    => some p
      | .error _ _ => none

theorem after_compile (cache : GuardCache) (d : Nat) (guard : Option (Guard ρ)) :
    cache.after (.compile d guard) =
      match cache.compile d guard with
      | .ok (_, cache') => cache'
      | .error _        => cache := by
  show (match (compileInPlace d guard).run cache with
    | .ok _ cache' => cache' | .error _ cache' => cache') = _
  rw [compileInPlace_run]
  cases cache.compile d guard <;> rfl

theorem handsOut?_compile (cache : GuardCache) (d : Nat) (guard : Option (Guard ρ)) :
    cache.handsOut? (.compile d guard) =
      match cache.compile d guard with
      | .ok (p, _) => some p
      | .error _   => none := by
  show (match (compileInPlace d guard).run cache with | .ok p _ => some p | .error _ _ => none) = _
  rw [compileInPlace_run]
  cases cache.compile d guard <;> rfl

theorem handsOut?_eq_some {cache : GuardCache} {d : Nat} {guard : Option (Guard ρ)} {p : Predicate ρ} :
    cache.handsOut? (.compile d guard) = some p ↔
      cache.compile d guard = .ok (p, cache.after (.compile d guard)) := by
  rw [handsOut?_compile, after_compile]
  cases cache.compile d guard with
  | ok r => simp [Prod.ext_iff]
  | error m => exact iff_of_false (fun h => nomatch h) (fun h => nomatch h)

/-- A compilation that fails leaves the cache as it was. -/
theorem after_of_failed {cache : GuardCache} {d : Nat} {guard : Option (Guard ρ)}
    (h : cache.handsOut? (.compile d guard) = none) : cache.after (.compile d guard) = cache := by
  rw [handsOut?_compile] at h
  rw [after_compile]
  cases hcompile : cache.compile d guard with
  | ok r =>
      rw [hcompile] at h
      exact nomatch h
  | error m => rfl

/-- A guard that is no text, or blank text, leaves the cache as it is. -/
theorem after_of_no_text {guard : Option (Guard ρ)}
    (h : ∀ source, guard = some (.text source) → isBlankText source = true) (cache : GuardCache) :
    cache.after (.compile d guard) = cache := by
  cases hout : cache.handsOut? (.compile d guard) with
  | none => exact after_of_failed hout
  | some p =>
      rcases compile_cases (handsOut?_eq_some.mp hout) with hsame | ⟨source, -, rfl, hblank, -⟩
      · exact hsame
      · exact nomatch hblank.symm.trans (h source rfl)

/-- Text that is not blank has a compiled predicate. -/
theorem compiled_of_text {cache : GuardCache} {d : Nat} {source : String} {p : Predicate ρ}
    (hblank : isBlankText source = false)
    (h : cache.handsOut? (.compile d (some (.text source))) = some p) :
    ∃ c, p = .compiled c ∧ cache.compileText d source
      = .ok (c, cache.after (.compile d (some (.text source : Guard ρ)))) := by
  rw [handsOut?_eq_some, compile_text hblank] at h
  obtain ⟨⟨c, cache'⟩, hc, heq⟩ := map_eq_ok.mp h
  cases heq
  exact ⟨c, rfl, hc⟩

/-- Nothing else has one. -/
theorem text_of_compiled {cache : GuardCache} {d : Nat} {guard : Option (Guard ρ)} {c : Compiled}
    (h : cache.handsOut? (.compile d guard) = some (.compiled c)) :
    ∃ source, guard = some (.text source) ∧ isBlankText source = false := by
  cases guard with
  | none => exact nomatch h
  | some g =>
      cases g with
      | test run => exact nomatch h
      | text source =>
          cases hblank : isBlankText source with
          | true =>
              rw [handsOut?_eq_some, compile_blank hblank] at h
              exact nomatch h
          | false => exact ⟨source, rfl, hblank⟩

/-- A predicate that was handed out for text is in the cache. -/
theorem get?_of_handsOut? {cache : GuardCache} {d : Nat} {source : String} {c : Compiled}
    (h : cache.handsOut? (.compile d (some (.text source : Guard ρ))) = some (.compiled c)) :
    (cache.after (.compile d (some (.text source : Guard ρ)))).entries.get? source = some c := by
  obtain ⟨_, hsource, hblank⟩ := text_of_compiled h
  cases hsource
  obtain ⟨d, hd, hcompile⟩ := compiled_of_text hblank h
  cases hd
  rcases compileText_eq_ok.mp hcompile with ⟨hget, hsame⟩ | ⟨-, -, -, hafter⟩
  · rw [hsame]
    exact hget
  · rw [hafter, Keyed.get?_insert, if_pos rfl]

/-- **What a call changes.**  It forgets everything, or leaves the cache as it is, or adds a text that
    was not there, with a predicate of the next serial number. -/
theorem after_cases (cache : GuardCache) (call : CacheCall ρ) :
    call = .clear ∨ call ≠ .clear ∧ cache.after call = cache ∨
      ∃ d source c, call = .compile d (some (.text source)) ∧
        cache.handsOut? call = some (.compiled c) ∧ cache.entries.get? source = none ∧
        c.serial = cache.next ∧
        cache.after call = ⟨cache.entries.insert source c, cache.next + 1⟩ := by
  cases call with
  | clear => exact .inl rfl
  | compile d guard =>
      have hcall : CacheCall.compile d guard ≠ .clear := fun h => nomatch h
      right
      cases hout : cache.handsOut? (.compile d guard) with
      | none => exact .inl ⟨hcall, after_of_failed hout⟩
      | some p =>
          rcases compile_cases (handsOut?_eq_some.mp hout) with hsame | ⟨source, c, rfl, -, hc, rfl⟩
          · exact .inl ⟨hcall, hsame⟩
          · rcases compileText_eq_ok.mp hc with ⟨-, hsame⟩ | ⟨hnew, -, hserial, hafter⟩
            · exact .inl ⟨hcall, hsame⟩
            · exact .inr ⟨d, source, c, rfl, rfl, hnew, hserial, hafter⟩

/-! ## Runs -/

/-- The cache that calls leave of an empty one. -/
def afterAll (calls : List (CacheCall ρ)) : GuardCache :=
  calls.foldl after {}

theorem afterAll_append (before later : List (CacheCall ρ)) :
    afterAll (before ++ later) = later.foldl after (afterAll before) :=
  List.foldl_append

theorem afterAll_concat (calls : List (CacheCall ρ)) (call : CacheCall ρ) :
    afterAll (calls ++ [call]) = (afterAll calls).after call :=
  afterAll_append calls [call]

/-- Among calls, a guard was compiled and a predicate was handed out for it, with some calls still to
    come. -/
def HandedOut (calls : List (CacheCall ρ)) (guard : Option (Guard ρ)) (p : Predicate ρ)
    (later : List (CacheCall ρ)) : Prop :=
  ∃ before d, calls = before ++ .compile d guard :: later ∧
    (afterAll before).handsOut? (.compile d guard) = some p

/-- Entries under texts of their own, with serial numbers of their own that were given before. -/
structure Numbered (cache : GuardCache) : Prop where
  below : cache.entries.Each fun c => c.serial < cache.next
  apart : ∀ {source source' c c'}, cache.entries.get? source = some c →
    cache.entries.get? source' = some c' → c.serial = c'.serial → source = source'

theorem Numbered.clear (cache : GuardCache) : cache.clear.Numbered :=
  ⟨.nil, fun h => nomatch h⟩

/-- **A cache stays numbered.** -/
theorem Numbered.after {cache : GuardCache} (h : cache.Numbered) (call : CacheCall ρ) :
    (cache.after call).Numbered := by
  rcases cache.after_cases call with rfl | ⟨-, hsame⟩ | ⟨-, source, c, -, -, -, hserial, hafter⟩
  · exact .clear cache
  · rw [hsame]
    exact h
  · rw [hafter]
    have hfresh : ∀ {text d}, cache.entries.get? text = some d → d.serial ≠ c.serial :=
      fun hd heq => Nat.lt_irrefl _ (hserial ▸ heq ▸ h.below.get? hd)
    constructor
    · have hlater : cache.entries.Each fun d => d.serial < cache.next + 1 :=
        ⟨h.below.nodup, fun e he => Nat.lt_succ_of_lt (h.below.all e he)⟩
      exact hlater.insert (hserial ▸ Nat.lt_succ_self _)
    · intro text text' d d' hd hd' heq
      rw [Keyed.get?_insert] at hd hd'
      split at hd <;> split at hd'
      · next ht ht' => rw [ht, ht']
      · cases hd
        exact absurd heq.symm (hfresh hd')
      · cases hd'
        exact absurd heq (hfresh hd)
      · exact h.apart hd hd' heq

theorem numbered_afterAll (calls : List (CacheCall ρ)) : (afterAll calls).Numbered := by
  induction calls using List.reverseRecOn with
  | nil => exact .clear {}
  | append_singleton calls call ih =>
      rw [afterAll_concat]
      exact ih.after call

/-! ## What the cache holds -/

/-- A text stays in the cache, with its predicate, until everything is forgotten. -/
theorem get?_after {cache : GuardCache} {source : String} {c : Compiled}
    (h : cache.entries.get? source = some c) {call : CacheCall ρ} (hcall : call ≠ .clear) :
    (cache.after call).entries.get? source = some c := by
  rcases cache.after_cases call with hclear | ⟨-, hsame⟩ | ⟨d, text, new, -, -, hnew, -, hafter⟩
  · exact absurd hclear hcall
  · rw [hsame]
    exact h
  · have hne : source ≠ text := by
      rintro rfl
      exact nomatch h.symm.trans hnew
    rw [hafter, Keyed.get?_insert, if_neg hne]
    exact h

theorem get?_foldl {cache : GuardCache} {source : String} {c : Compiled}
    (h : cache.entries.get? source = some c) {later : List (CacheCall ρ)} (hkept : .clear ∉ later) :
    (later.foldl after cache).entries.get? source = some c := by
  induction later generalizing cache with
  | nil => exact h
  | cons call later ih =>
      obtain ⟨hcall, hlater⟩ := List.ne_and_not_mem_of_not_mem_cons hkept
      exact ih (get?_after h hcall.symm) hlater

/-- What was handed out for text and not forgotten is still there. -/
theorem HandedOut.entry {calls later : List (CacheCall ρ)} {source : String} {c : Compiled}
    (h : HandedOut calls (some (.text source)) (.compiled c) later) (hkept : .clear ∉ later) :
    (afterAll calls).entries.get? source = some c := by
  obtain ⟨before, d, rfl, hout⟩ := h
  rw [afterAll_append]
  exact get?_foldl (get?_of_handsOut? hout) hkept

/-- **A cache holds what was handed out for text since everything was last forgotten.** -/
theorem entry_iff {calls : List (CacheCall ρ)} {source : String} {c : Compiled} :
    (afterAll calls).entries.get? source = some c ↔
      ∃ later, HandedOut calls (some (.text source)) (.compiled c) later ∧ .clear ∉ later := by
  constructor
  · intro h
    induction calls using List.reverseRecOn with
    | nil => exact nomatch h
    | append_singleton calls call ih =>
        have hlater : call ≠ .clear → (afterAll calls).entries.get? source = some c →
            ∃ later, HandedOut (calls ++ [call]) (some (.text source)) (.compiled c) later ∧
              .clear ∉ later := by
          intro hcall hget
          obtain ⟨later, ⟨before, d, rfl, hout⟩, hkept⟩ := ih hget
          refine ⟨later ++ [call], ⟨before, d, by simp, hout⟩, ?_⟩
          rw [List.mem_append, List.mem_singleton]
          exact not_or.mpr ⟨hkept, hcall.symm⟩
        rw [afterAll_concat] at h
        rcases after_cases (afterAll calls) call with
          rfl | ⟨hcall, hsame⟩ | ⟨d, text, new, rfl, hout, -, -, hafter⟩
        · exact nomatch h
        · exact hlater hcall (hsame ▸ h)
        · rw [hafter, Keyed.get?_insert] at h
          split at h
          · next heq =>
              cases h
              cases heq
              exact ⟨[], ⟨calls, d, rfl, hout⟩, List.not_mem_nil⟩
          · exact hlater (fun h => nomatch h) h
  · rintro ⟨later, hout, hkept⟩
    exact hout.entry hkept

/-! ## Which predicates are the same -/

/-- A serial number was given before, and what the cache still has under it is under certain texts. -/
def Confines (cache : GuardCache) (serial : Nat) (texts : String → Prop) : Prop :=
  serial < cache.next ∧
    ∀ {source c}, cache.entries.get? source = some c → c.serial = serial → texts source

namespace Confines

variable {cache : GuardCache} {serial : Nat} {texts texts' : String → Prop}

theorem imp (h : cache.Confines serial texts) (himp : ∀ source, texts source → texts' source) :
    cache.Confines serial texts' :=
  ⟨h.1, fun hget hserial => himp _ (h.2 hget hserial)⟩

/-- A call brings no other text under the serial number, and takes all away if it forgets everything. -/
theorem after (h : cache.Confines serial texts) (call : CacheCall ρ) :
    (cache.after call).Confines serial fun source => texts source ∧ call ≠ .clear := by
  rcases cache.after_cases call with rfl | ⟨hcall, hsame⟩ | ⟨d, text, new, rfl, -, -, hnext, hafter⟩
  · exact ⟨h.1, fun hget => nomatch hget⟩
  · rw [hsame]
    exact h.imp fun source hsource => ⟨hsource, hcall⟩
  · rw [hafter]
    refine ⟨Nat.lt_succ_of_lt h.1, fun {source c} hget hserial => ?_⟩
    rw [Keyed.get?_insert] at hget
    split at hget
    · -- the added text has the next serial number
      cases hget
      exact absurd (hserial ▸ hnext ▸ h.1) (Nat.lt_irrefl _)
    · exact ⟨h.2 hget hserial, fun heq => nomatch heq⟩

theorem foldl (h : cache.Confines serial texts) (later : List (CacheCall ρ)) :
    (later.foldl GuardCache.after cache).Confines serial
      fun source => texts source ∧ .clear ∉ later := by
  induction later generalizing cache texts with
  | nil => exact h.imp fun source hsource => ⟨hsource, List.not_mem_nil⟩
  | cons call later ih =>
      refine (ih (h.after call)).imp fun source ⟨⟨hsource, hcall⟩, hlater⟩ => ⟨hsource, ?_⟩
      exact List.not_mem_cons_of_ne_of_not_mem hcall.symm hlater

end Confines

/-- A serial number that was handed out for text is confined to that text, and gone once everything is
    forgotten. -/
theorem HandedOut.confines {calls later : List (CacheCall ρ)} {source : String} {c : Compiled}
    (h : HandedOut calls (some (.text source)) (.compiled c) later) :
    (afterAll calls).Confines c.serial fun text => text = source ∧ .clear ∉ later := by
  obtain ⟨before, d, rfl, hout⟩ := h
  have hget := get?_of_handsOut? hout
  have hnumbered := (numbered_afterAll before).after (.compile d (some (.text source : Guard ρ)))
  have hstart : ((afterAll before).after (.compile d (some (.text source : Guard ρ)))).Confines
      c.serial fun text => text = source :=
    ⟨hnumbered.below.get? hget, fun hget' heq => hnumbered.apart hget' hget heq⟩
  rw [afterAll_append]
  exact hstart.foldl later

section

variable {calls later : List (CacheCall ρ)} {d : Nat} {source : String} {p q : Predicate ρ}

/-- Text that was not forgotten is not compiled again. -/
theorem HandedOut.eq (hq : HandedOut calls (some (.text source)) q later) (hkept : .clear ∉ later)
    (hblank : isBlankText source = false)
    (hp : (afterAll calls).handsOut? (.compile d (some (.text source))) = some p) : p = q := by
  obtain ⟨d, rfl, hcompile⟩ := compiled_of_text hblank hp
  have ⟨_, _, _, hout⟩ := hq
  obtain ⟨c, rfl, -⟩ := compiled_of_text hblank hout
  have hentry := hq.entry hkept
  rcases compileText_eq_ok.mp hcompile with ⟨hget, -⟩ | ⟨hnew, -⟩
  · exact congrArg Predicate.compiled (Option.some.inj (hget.symm.trans hentry))
  · exact nomatch hnew.symm.trans hentry

/-- **The predicate of a text is the same object as one that was handed out before just if that one was
    handed out for the same text, and nothing was forgotten since.** -/
theorem same_iff {guard : Option (Guard ρ)} (hblank : isBlankText source = false)
    (hp : (afterAll calls).handsOut? (.compile d (some (.text source))) = some p)
    (hq : HandedOut calls guard q later) :
    p.Same q ↔ guard = some (.text source) ∧ .clear ∉ later := by
  constructor
  · intro hsame
    obtain ⟨d, rfl, hcompile⟩ := compiled_of_text hblank hp
    cases q with
    | always => exact absurd hsame (fun h => h)
    | test run => exact absurd hsame (fun h => h)
    | compiled c =>
        have ⟨_, _, _, hout⟩ := hq
        obtain ⟨text, rfl, -⟩ := text_of_compiled hout
        obtain ⟨hgiven, hconfined⟩ := hq.confines
        rcases compileText_eq_ok.mp hcompile with ⟨hget, -⟩ | ⟨-, -, hserial, -⟩
        · obtain ⟨rfl, hkept⟩ := hconfined hget hsame
          exact ⟨rfl, hkept⟩
        · exact absurd (hserial ▸ hsame ▸ hgiven) (Nat.lt_irrefl _)
  · rintro ⟨rfl, hkept⟩
    have heq := hq.eq hkept hblank hp
    obtain ⟨d, rfl, -⟩ := compiled_of_text hblank hp
    rw [← heq]
    exact rfl

end

/-! ## The theorem -/

/-- **The cache is exact.**  After any calls, each in the room of its caller, the cache has each text
    once, and it has those texts that are not blank and for which a predicate was handed out since
    everything was last forgotten.  What is handed out for such a text now, in whatever room, is the
    same object as what was handed out before just if that was for the same text and nothing was
    forgotten since; it is another object otherwise.  A guard that is no text, or blank text, leaves the
    cache as it is, and so does a compilation that fails. -/
theorem cache_is_exact (calls : List (CacheCall ρ)) :
    let cache := afterAll calls
    cache.entries.keys.Nodup ∧
      (∀ source, source ∈ cache.entries.keys ↔ isBlankText source = false ∧
        ∃ p later, HandedOut calls (some (.text source)) p later ∧ .clear ∉ later) ∧
      (∀ d source p, isBlankText source = false →
        cache.handsOut? (.compile d (some (.text source))) = some p →
        ∀ guard q later, HandedOut calls guard q later →
          (p.Same q ↔ guard = some (.text source) ∧ .clear ∉ later) ∧ (p.Same q → p = q)) ∧
      (∀ d (guard : Option (Guard ρ)),
        (∀ source, guard = some (.text source) → isBlankText source = true) →
        cache.after (.compile d guard) = cache) ∧
      ∀ d (guard : Option (Guard ρ)), cache.handsOut? (.compile d guard) = none →
        cache.after (.compile d guard) = cache := by
  intro cache
  refine ⟨(numbered_afterAll calls).below.nodup, fun source => ?_, ?_,
    fun d guard h => after_of_no_text h cache, fun d guard h => after_of_failed h⟩
  · constructor
    · intro hmem
      cases hget : cache.entries.get? source with
      | none => exact absurd hmem (Keyed.not_mem_keys hget)
      | some c =>
          obtain ⟨later, hc, hkept⟩ := entry_iff.mp hget
          have ⟨_, _, _, hout⟩ := hc
          obtain ⟨_, hsource, hblank⟩ := text_of_compiled hout
          cases hsource
          exact ⟨hblank, .compiled c, later, hc, hkept⟩
    · rintro ⟨hblank, p, later, hp, hkept⟩
      have ⟨_, _, _, hout⟩ := hp
      obtain ⟨c, rfl, -⟩ := compiled_of_text hblank hout
      by_contra hmem
      exact nomatch (Keyed.get?_eq_none hmem).symm.trans (hp.entry hkept)
  · intro d source p hblank hp guard q later hq
    have hsame := same_iff hblank hp hq
    refine ⟨hsame, fun h => ?_⟩
    obtain ⟨rfl, hkept⟩ := hsame.mp h
    exact hq.eq hkept hblank hp

/-- A text that was compiled before and after everything was forgotten, in different rooms, and one that
    differs in a blank at its end: the cache has the text once, with the second predicate, and the first
    one is another object. -/
theorem cache_is_exact_forgotten :
    let compile (source : String) : CacheCall Rat := .compile 970 (some (.text source))
    let deep (source : String) : CacheCall Rat := .compile 12 (some (.text source))
    let calls := [compile "true", compile "true ", .clear, deep "true", compile "(", compile " "]
    let cache := afterAll calls
    ∃ p q r, HandedOut calls (some (.text "true")) q (calls.drop 1) ∧
      HandedOut calls (some (.text "true")) r (calls.drop 4) ∧
      cache.handsOut? (compile "true") = some p ∧ p = r ∧ ¬p.Same q ∧
      cache.entries.keys = ["true", "("] ∧ "true " ∉ cache.entries.keys ∧
      " " ∉ cache.entries.keys := by
  intro compile deep calls cache
  have hq : HandedOut calls (some (.text "true")) _ (calls.drop 1) := ⟨[], 970, rfl, rfl⟩
  have hr : HandedOut calls (some (.text "true")) _ (calls.drop 4) :=
    ⟨calls.take 3, 12, rfl, rfl⟩
  obtain ⟨-, hkeys, hsame, -⟩ := cache_is_exact calls
  have hp : cache.handsOut? (compile "true") = some _ := rfl
  have hearlier := hsame 970 "true" _ (by decide) hp _ _ _ hq
  have hlater := hsame 970 "true" _ (by decide) hp _ _ _ hr
  have hkept : CacheCall.clear ∉ calls.drop 4 := by simp [calls, compile]
  have hforgotten : CacheCall.clear ∈ calls.drop 1 := by simp [calls]
  refine ⟨_, _, _, hq, hr, hp, hlater.2 (hlater.1.mpr ⟨rfl, hkept⟩),
    fun h => (hearlier.1.mp h).2 hforgotten, rfl, by decide, ?_⟩
  intro hblank
  exact nomatch ((hkeys " ").mp hblank).1

end GuardCache

end LessonVariants
