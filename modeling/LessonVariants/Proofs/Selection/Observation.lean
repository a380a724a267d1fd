import LessonVariants.Proofs.Selection.Agreement

/-! # Observing a decision does not change it

    A trace adds to a decision what was found out about each variant, and nothing else: without its
    records, a traced decision is the one that is made without a trace (`decide_untraced`).

    The guard cache saves parsing.  What it keeps is what parsing came to in the room of the call that
    compiled the text, and so a call in a smaller room can leave a rejection that later decisions keep
    (`cramped_compile_hides`).  That is the only way in which its history shows.  If the calls of the
    past that compiled a guard of the slot ran out of room just where the decision's own would, it has
    no part in what is decided (`observation_changes_nothing`). -/

namespace LessonVariants

variable {ρ σ : Type}

/-- A decision without the verdicts and the scores that a trace records.  Everything else stays: the
    variant, the policy's version, what was used, and the choice to be remembered. -/
def Decision.untraced (d : Decision ρ) : Decision ρ :=
  { d with result := { d.result with why := { d.result.why with guards := [], score := [] } } }

/-- A denial records nothing. -/
theorem Slot.denied_untraced (settings : Settings ρ) (slot : Slot ρ) (first : Variant ρ)
    (version : String) :
    (slot.denied settings first { policyVersion := version }).map Decision.untraced
      = slot.denied settings first { policyVersion := version } := by
  rcases slot.denied_cases settings first { policyVersion := version } with hno | hyes
  · rw [hno]
    rfl
  · rw [hyes]
    rfl

variable [WireScalar ρ] {settings : Settings ρ} {slot : Slot ρ} {session : Session ρ}
  {policy : Policy ρ} {now : ρ} {trace : Bool}

/-- A ranking without a trace comes to the traced decision without its records. -/
theorem ofScores_untraced (settings : Settings ρ) (slot : Slot ρ) (first : Variant ρ)
    (version : String) (trace : Bool) (verdicts : List (Variant ρ × Bool))
    (scored : List (Variant ρ × ρ)) :
    (Decision.ofScores settings slot first { policyVersion := version } trace verdicts
        scored).untraced
      = .ofScores settings slot first { policyVersion := version } false verdicts scored := by
  cases trace <;> rfl

/-- A ranking judges the same variants with a trace and without one. -/
theorem rankedDecision_untraced (judge : Judge σ ρ) (first : Variant ρ) (version : String)
    (trace : Bool) (st : σ) :
    rankedDecision settings judge slot first session { policyVersion := version } false st =
      ((rankedDecision settings judge slot first session { policyVersion := version } trace
          st).1.map Decision.untraced,
        (rankedDecision settings judge slot first session { policyVersion := version } trace
          st).2) := by
  unfold rankedDecision
  cases judgeAll judge session slot.id (slot.variants.filter (·.suits session)) st with
  | mk outcome st' =>
      cases outcome with
      | error f => rfl
      | ok verdicts =>
          exact congrArg (fun d => (Except.ok d, st'))
            (ofScores_untraced settings slot first version trace verdicts _).symm

/-- **Without a trace a decision is the traced one without its records**, and it leaves the judge in
    the same state. -/
theorem decide_untraced (judge : Judge σ ρ) (trace : Bool) (st : σ) :
    decide settings judge slot session policy false now st =
      ((decide settings judge slot session policy trace now st).1.map Decision.untraced,
        (decide settings judge slot session policy trace now st).2) := by
  rw [decide_eq, decide_eq]
  cases route settings slot session policy now with
  | denied first =>
      exact congrArg (·, st) (slot.denied_untraced settings first policy.version).symm
  | ranked first => exact rankedDecision_untraced judge first policy.version trace st
  | _ => rfl

/-! ## The theorem -/

/-- **Neither a trace nor the history of the guard cache changes a decision.**

    From any cache, with or without a trace, a decision fails with the same error or comes out the same
    but for its records of verdicts and scores.  Without a trace there are no such records.

    The same holds from any two caches, and with a trace they give the same records, as far as the calls
    that filled them ran out of room on the guards of the slot just where the decision's own calls
    would. -/
theorem observation_changes_nothing {calls calls' : Nat → String → Prop}
    {cache cache' : GuardCache} (hcache : cache.Reachable calls) (hcache' : cache'.Reachable calls')
    (room : Room) (settings : Settings ρ) (slot : Slot ρ) (session : Session ρ) (policy : Policy ρ)
    (now : ρ) :
    let outcome := fun trace cache =>
      (decide settings (GuardCache.judge room) slot session policy trace now cache).1
    (∀ trace trace',
      (outcome trace cache).map Decision.untraced = (outcome trace' cache).map Decision.untraced) ∧
    (∀ d, outcome false cache = .ok d → d.result.why.guards = [] ∧ d.result.why.score = []) ∧
    ((∀ v ∈ slot.variants, ∀ source, v.guard = some (.text source) →
        ∀ k, calls k source ∨ calls' k source → CutAlike room.parsing k source) →
      (∀ trace trace', (outcome trace cache).map Decision.untraced
        = (outcome trace' cache').map Decision.untraced) ∧
      outcome true cache = outcome true cache') := by
  intro outcome
  have hfree : ∀ trace (cache : GuardCache),
      (outcome trace cache).map Decision.untraced = outcome false cache := fun trace cache =>
    (congrArg Prod.fst (decide_untraced (GuardCache.judge room) trace cache)).symm
  refine ⟨fun trace trace' => (hfree trace cache).trans (hfree trace' cache).symm,
    fun d hd => ?_, fun halike => ?_⟩
  · rw [← hfree false cache] at hd
    obtain ⟨traced, -, rfl⟩ := map_eq_ok.mp hd
    exact ⟨rfl, rfl⟩
  · -- both caches read in the slot's guards what parsing gives now
    have hreading : ∀ v ∈ slot.variants, ∀ source, v.guard = some (.text source) →
        cache'.reading room.parsing source = cache.reading room.parsing source := by
      intro v hv source hguard
      rw [hcache.reading_eq_parse fun k hk => halike v hv source hguard k (.inl hk),
        hcache'.reading_eq_parse fun k hk => halike v hv source hguard k (.inr hk)]
    have hcaches : ∀ trace, outcome trace cache = outcome trace cache' := fun trace =>
      ((Interchangeable.of_reading hreading settings policy now session).decide_eq trace).symm
    refine ⟨fun trace trace' => ?_, hcaches true⟩
    rw [hfree, hfree, hcaches]

/-- A new cache, and one that was cleared of the guard of `a` and has since kept the text of `b`, which
    does not parse, and a text of no variant, which did not fit the room of its call: the same variant
    fails, and the same one is shown. -/
theorem observation_changes_nothing_history :
    let room : Room := ⟨970, 970⟩
    let slot : Slot Rat :=
      ⟨"s", [{ id := "a", guard := some (.text "session.online") },
        { id := "b", guard := some (.text "(") }, { id := "c" }], none⟩
    let session : Session Rat := { metrics := Metrics.initial }
    let calls := fun k source => k = room.parsing ∨ k = 1 ∧ source = "!false"
    ∃ cache : GuardCache, cache.Reachable calls ∧ cache.entries.keys = ["(", "!false"] ∧
      GuardCache.Reachable calls {} ∧
      (decide .default (GuardCache.judge room) slot session {} true 0 cache).1
        = (decide .default (GuardCache.judge room) slot session {} true 0 {}).1 ∧
      (decide .default (GuardCache.judge room) slot session {} true 0 cache).1.map Decision.untraced
        = (decide .default (GuardCache.judge room) slot session {} false 0 {}).1.map
            Decision.untraced ∧
      ∃ d, (decide .default (GuardCache.judge room) slot session {} true 0 cache).1 = .ok d ∧
        d.result.variantId = "c" ∧
        d.result.why.guards = [("a", false), ("b", false), ("c", true)] := by
  intro room slot session calls
  have hcompile : ∀ {cache cache' : GuardCache} {c : Compiled} {d : Nat} {source : String},
      cache.Reachable calls → isBlankText source = false → calls d source →
      cache.compileText d source = .ok (c, cache') → cache'.Reachable calls := by
    intro cache cache' c d source hcache hblank hcall hc
    have hguard : cache.compile d (some (.text source : Guard Rat)) = .ok (.compiled c, cache') := by
      rw [GuardCache.compile_text hblank, hc]
      rfl
    refine hcache.compile (fun text htext => ?_) hguard
    cases htext
    exact hcall
  -- the cramped call was on a text that is no guard of the slot
  have halike : ∀ v ∈ slot.variants, ∀ source, v.guard = some (.text source) →
      ∀ k, calls k source ∨ calls k source → CutAlike room.parsing k source := by
    intro v hv source hguard k hk
    rcases hk.elim id id with rfl | ⟨-, rfl⟩
    · exact .refl _ source
    · simp only [slot, List.mem_cons, List.not_mem_nil, or_false] at hv
      rcases hv with rfl | rfl | rfl <;> simp at hguard
  have hown : GuardCache.compileText {} 970 "session.online" = .ok (_, _) := rfl
  have hbroken : GuardCache.compileText ⟨[], 1⟩ 970 "(" = .ok (_, _) := rfl
  have hcramped : GuardCache.compileText ⟨[("(", ⟨1, none⟩)], 2⟩ 1 "!false" = .ok (_, _) := rfl
  have hcleared := (hcompile .start rfl (.inl rfl) hown).clear
  have hcache :=
    hcompile (hcompile hcleared rfl (.inl rfl) hbroken) rfl (.inr ⟨rfl, rfl⟩) hcramped
  obtain ⟨-, -, hsame⟩ := observation_changes_nothing hcache .start room Settings.default slot
    session {} 0
  obtain ⟨huntraced, htraced⟩ := hsame halike
  exact ⟨_, hcache, rfl, .start, htraced, huntraced true false, _, rfl, rfl, rfl⟩

/-- **A call in a cramped room changes later decisions.**  Parsing `!false` takes two levels.  Compiled
    where there is one, it is kept as a text that does not parse; a decision in an ample room then
    falls back, where it would have shown the variant from a new cache. -/
theorem cramped_compile_hides :
    let room : Room := ⟨970, 970⟩
    let slot : Slot Rat :=
      ⟨"s", [{ id := "a", guard := some (.text "!false") },
        { id := "b", guard := some (.text "false") }], some "b"⟩
    let session : Session Rat := { metrics := Metrics.initial }
    ∃ cache : GuardCache, cache.Reachable (fun _ _ => True) ∧
      (∃ p, GuardCache.compile {} 1 (some (.text "!false" : Guard Rat)) = .ok (p, cache)) ∧
      (∃ d, (decide .default (GuardCache.judge room) slot session {} false 0 {}).1 = .ok d ∧
        d.result.variantId = "a") ∧
      ∃ d, (decide .default (GuardCache.judge room) slot session {} false 0 cache).1 = .ok d ∧
        d.result.variantId = "b" := by
  intro room slot session
  have hcompile : GuardCache.compile {} 1 (some (.text "!false" : Guard Rat)) = .ok (_, _) := rfl
  exact ⟨_, GuardCache.Reachable.start.compile (fun _ _ => trivial) hcompile, ⟨_, hcompile⟩,
    ⟨_, rfl, rfl⟩, _, rfl, rfl⟩

end LessonVariants
