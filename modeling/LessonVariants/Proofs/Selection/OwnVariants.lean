import LessonVariants.Proofs.Ranking.Permutation
import LessonVariants.Proofs.Selection.Precedence

/-! # Which variants a slot resolves to

    A ranking looks its fallback up among the variants of the slot, and a fallback that names none
    of them counts for nothing.  A denial does not look: it shows the fallback's id as it stands.
    So a slot resolves to one of its own variants, and an unknown fallback is as good as none,
    except where a slot is denied and its fallback is neither empty nor known (`Slot.Strays`). -/

namespace LessonVariants

variable {ρ σ : Type}

namespace Slot

/-- Whether one of the slot's variants has an id. -/
def Declares (slot : Slot ρ) (id : String) : Prop :=
  ∃ v ∈ slot.variants, v.id = id

/-- A slot as it would be without its fallback. -/
def withoutFallback (slot : Slot ρ) : Slot ρ :=
  { slot with fallbackId := none }

/-- A denied slot whose fallback has an id, but not that of a variant. -/
structure Strays (slot : Slot ρ) (session : Session ρ) (policy : Policy ρ) : Prop where
  denied   : Denied slot session policy
  fallback : ∃ id, slot.fallbackId = some id ∧ id.isEmpty = false ∧ ¬slot.Declares id

theorem declares_head {slot : Slot ρ} {first : Variant ρ} (h : slot.variants.head? = some first) :
    slot.Declares first.id :=
  ⟨first, List.mem_of_head? h, rfl⟩

theorem variant?_mem {slot : Slot ρ} {id : String} {v : Variant ρ} (h : slot.variant? id = some v) :
    v ∈ slot.variants :=
  List.mem_of_find?_eq_some h

theorem variant?_undeclared {slot : Slot ρ} {id : String} (h : ¬slot.Declares id) :
    slot.variant? id = none := by
  refine List.find?_eq_none.mpr fun v hv hid => h ⟨v, hv, ?_⟩
  exact eq_of_beq hid

/-- **A denied slot shows a variant of its own** unless it has a fallback with an id that is none of
    theirs. -/
theorem declares_deniedChoice {slot : Slot ρ} {first : Variant ρ}
    (hfirst : slot.variants.head? = some first) :
    slot.Declares (slot.deniedChoice first) ↔
      ¬∃ id, slot.fallbackId = some id ∧ id.isEmpty = false ∧ ¬slot.Declares id := by
  unfold deniedChoice
  cases hfallback : slot.fallbackId with
  | none => exact iff_of_true (declares_head hfirst) fun ⟨id, h, _⟩ => nomatch h
  | some id =>
      dsimp only
      cases hempty : id.isEmpty with
      | true =>
          refine iff_of_true (declares_head hfirst) ?_
          rintro ⟨id', h, hsome, -⟩
          cases h
          exact nomatch hempty.symm.trans hsome
      | false =>
          rw [if_neg Bool.false_ne_true]
          constructor
          · rintro hdeclared ⟨id', h, -, hnot⟩
            cases h
            exact hnot hdeclared
          · intro h
            exact Classical.byContradiction fun hnot => h ⟨id, rfl, hempty, hnot⟩

end Slot

/-! ## Decisions by ranking -/

theorem mem_survivors {verdicts : List (Variant ρ × Bool)} {v : Variant ρ}
    (h : v ∈ survivors verdicts) : v ∈ verdicts.map Prod.fst := by
  obtain ⟨e, he, rfl⟩ := List.mem_map.mp h
  exact List.mem_map_of_mem (List.mem_filter.mp he).1

/-- Verdicts are on the variants that are judged, in their order. -/
theorem judgeAll_variants {judge : Judge σ ρ} {session : Session ρ} {slotId : String}
    {vs : List (Variant ρ)} {st st' : σ} {verdicts : List (Variant ρ × Bool)}
    (h : judgeAll judge session slotId vs st = (.ok verdicts, st')) :
    verdicts.map Prod.fst = vs := by
  induction vs generalizing st st' verdicts with
  | nil =>
      cases h
      rfl
  | cons v vs ih =>
      unfold judgeAll at h
      split at h
      · exact nomatch h
      · split at h
        · exact nomatch h
        · next hrest =>
            cases h
            exact congrArg (v :: ·) (ih hrest)

variable [WireScalar ρ] {settings : Settings ρ} {judge : Judge σ ρ} {slot : Slot ρ}
  {first : Variant ρ} {session : Session ρ} {policy : Policy ρ} {why : Rationale ρ} {trace : Bool}
  {now : ρ} {st st' : σ} {verdicts : List (Variant ρ × Bool)}

/-- **A ranking resolves a slot to one of its variants.** -/
theorem declares_ofVerdicts (hfirst : slot.variants.head? = some first)
    (hverdicts : ∀ v ∈ verdicts.map Prod.fst, v ∈ slot.variants) :
    slot.Declares
      (Decision.ofVerdicts settings slot first session why trace verdicts).result.variantId := by
  show slot.Declares (Option.getD _ _ : Variant ρ).id
  cases hwinner : winner? ((survivors verdicts).map fun v => (v, v.score session)) with
  | none =>
      cases hfallback : slot.fallbackId.bind slot.variant? with
      | none => exact Slot.declares_head hfirst
      | some v =>
          obtain ⟨id, -, hv⟩ := Option.bind_eq_some_iff.mp hfallback
          exact ⟨v, Slot.variant?_mem hv, rfl⟩
  | some best =>
      obtain ⟨v, hv, rfl⟩ := List.mem_map.mp (winner?_mem hwinner)
      exact ⟨v, hverdicts v (mem_survivors hv), rfl⟩

/-- A ranking takes a fallback that names no variant for none. -/
theorem ofVerdicts_withoutFallback (h : slot.fallbackId.bind slot.variant? = none) :
    Decision.ofVerdicts settings slot.withoutFallback first session why trace verdicts
      = Decision.ofVerdicts settings slot first session why trace verdicts := by
  unfold Decision.ofVerdicts Decision.ofScores
  rw [h]
  rfl

theorem rankedDecision_withoutFallback (h : slot.fallbackId.bind slot.variant? = none) :
    rankedDecision settings judge slot.withoutFallback first session why trace st
      = rankedDecision settings judge slot first session why trace st := by
  simp only [rankedDecision, ofVerdicts_withoutFallback h]
  rfl

/-! ## The theorem -/

/-- A decision by neither an override nor a record shows a variant of the slot, unless the slot
    strays. -/
theorem decide_declares {d : Decision ρ}
    (h : decide settings judge slot session policy trace now st = (.ok d, st'))
    (hforced : d.result.why.overridesUsed = none) (hretained : d.result.why.stickyUsed = none) :
    slot.Declares d.result.variantId ↔ ¬slot.Strays session policy := by
  rcases decide_inv h with
    ⟨first, hroute, rfl⟩ | ⟨id, -, rfl⟩ | ⟨r, -, rfl⟩ | ⟨first, hroute, hranked⟩
  · obtain ⟨hfirst, hdenied⟩ := Route.applies hroute
    refine (Slot.declares_deniedChoice hfirst).trans (not_congr ⟨fun h => ?_, fun h => h.fallback⟩)
    have hsome : slot.variants ≠ [] := fun hempty => by rw [hempty] at hfirst; exact nomatch hfirst
    exact ⟨⟨hsome, hdenied⟩, h⟩
  · exact nomatch hforced
  · exact nomatch hretained
  · obtain ⟨hfirst, hallowed, -⟩ := Route.applies hroute
    obtain ⟨verdicts, hverdicts, rfl⟩ := rankedDecision_eq_ok hranked
    have hdeclared : ∀ v ∈ verdicts.map Prod.fst, v ∈ slot.variants := by
      intro v hv
      rw [judgeAll_variants hverdicts] at hv
      exact (List.mem_filter.mp hv).1
    refine iff_of_true (declares_ofVerdicts hfirst hdeclared) fun hstrays => ?_
    exact nomatch hallowed.symm.trans hstrays.denied.verdict

theorem route_withoutFallback
    (h : policy.verdict slot.withoutFallback session = policy.verdict slot session) :
    route settings slot.withoutFallback session policy now
      = route settings slot session policy now := by
  unfold route
  rw [h]
  rfl

omit [WireScalar ρ] in
/-- A slot that does not stray shows, where it is denied, what it shows without its fallback, if that
    names none of its variants. -/
theorem denied_withoutFallback (hunknown : ∀ id, slot.fallbackId = some id → ¬slot.Declares id)
    (hdenied : Denied slot session policy) (hstrays : ¬slot.Strays session policy) :
    slot.withoutFallback.denied settings first why = slot.denied settings first why := by
  have hchoice : slot.withoutFallback.deniedChoice first = slot.deniedChoice first := by
    unfold Slot.deniedChoice
    cases hfallback : slot.fallbackId with
    | none => rfl
    | some id =>
        cases hempty : id.isEmpty with
        | true => exact (if_pos hempty).symm
        | false => exact absurd ⟨hdenied, id, hfallback, hempty, hunknown id hfallback⟩ hstrays
  unfold Slot.denied
  rw [hchoice]
  rfl

omit [WireScalar ρ] in
/-- A denied slot shows its fallback, whatever its id, unless the id is empty. -/
theorem Slot.denied_of_fallback {id : String} (hfallback : slot.fallbackId = some id)
    (hsome : id.isEmpty = false) :
    slot.denied settings first why
      = .ok (.remembered slot id why .firstPick .weak settings.stickyScope) := by
  have hchoice : slot.deniedChoice first = id := by
    rw [Slot.deniedChoice, hfallback]
    exact if_neg (Bool.eq_false_iff.mp hsome)
  rw [Slot.denied, hchoice]
  exact if_neg (Bool.eq_false_iff.mp hsome)

/-- **A slot resolves to one of its own variants, and an unknown fallback is as good as none, unless
    the slot strays.**  A decision by neither an override nor a record shows a variant of the slot
    just if the slot does not stray.  If the fallback names no variant of the slot, and the policy
    does not look at it, then the slot fares as it would without the fallback, again just if it does
    not stray. -/
theorem resolves_to_own_variant_iff (settings : Settings ρ) (judge : Judge σ ρ) (slot : Slot ρ)
    (session : Session ρ) (policy : Policy ρ) (trace : Bool) (now : ρ) (st : σ) :
    (∀ d, (decide settings judge slot session policy trace now st).1 = .ok d →
      d.result.why.overridesUsed = none → d.result.why.stickyUsed = none →
      (slot.Declares d.result.variantId ↔ ¬slot.Strays session policy)) ∧
    ((∀ id, slot.fallbackId = some id → ¬slot.Declares id) →
      policy.verdict slot.withoutFallback session = policy.verdict slot session →
      (decide settings judge slot session policy trace now st
          = decide settings judge slot.withoutFallback session policy trace now st ↔
        ¬slot.Strays session policy)) := by
  refine ⟨fun d h => decide_declares (Prod.ext h rfl), fun hunknown hverdict => ⟨?_, fun h => ?_⟩⟩
  · -- a slot that strays shows its fallback, and without it a variant of its own or nothing
    rintro heq ⟨hdenied, id, hfallback, hsome, hnot⟩
    obtain ⟨first, hfirst, hdecide⟩ := hdenied.decide_eq settings judge trace now st
    rw [hdecide, Slot.denied_of_fallback hfallback hsome] at heq
    have hdeclared := decide_declares heq.symm rfl rfl
    exact hnot (hdeclared.mpr fun ⟨_, id', hnone, _⟩ => nomatch hnone)
  · rw [decide_eq, decide_eq, route_withoutFallback hverdict]
    cases hroute : route settings slot session policy now with
    | noVariants => rfl
    | policyFailed f => rfl
    | forced id => rfl
    | retained r => rfl
    | denied first =>
        obtain ⟨hfirst, hdenied⟩ := Route.applies hroute
        have hvariants : slot.variants ≠ [] := List.ne_nil_of_mem (List.mem_of_head? hfirst)
        dsimp only
        rw [denied_withoutFallback hunknown ⟨hvariants, hdenied⟩ h]
    | ranked first =>
        have hnone : slot.fallbackId.bind slot.variant? = none :=
          Option.bind_eq_none_iff.mpr fun id hid => Slot.variant?_undeclared (hunknown id hid)
        exact (rankedDecision_withoutFallback hnone).symm

/-- A slot whose guards all fail, with an unknown fallback, does not stray: it shows its first
    variant, as it does without the fallback. -/
theorem resolves_to_own_variant_allowed :
    let slot : Slot Rat := ⟨"s", [{ id := "a" }, { id := "b" }], some "gone"⟩
    let session : Session Rat := { metrics := Metrics.initial }
    let judge : Judge Unit Rat := fun _ st => (.ok false, st)
    ∃ d, (decide .default judge slot session {} true 0 ()).1 = .ok d ∧
      d.result.why.overridesUsed = none ∧ d.result.why.stickyUsed = none ∧
      slot.Declares d.result.variantId ∧
      (∀ id, slot.fallbackId = some id → ¬slot.Declares id) ∧
      decide .default judge slot session {} true 0 ()
        = decide .default judge slot.withoutFallback session {} true 0 () := by
  intro slot session judge
  obtain ⟨hown, hbare⟩ := resolves_to_own_variant_iff Settings.default judge slot session {} true 0 ()
  have hstrays : ¬slot.Strays session {} := fun h => nomatch h.denied.verdict
  have hunknown : ∀ id, slot.fallbackId = some id → ¬slot.Declares id := by
    rintro id hid ⟨v, hv, rfl⟩
    have hv' : v.id = "a" ∨ v.id = "b" := by
      rcases List.mem_cons.mp hv with rfl | hv
      · exact Or.inl rfl
      · rw [List.mem_singleton.mp hv]
        exact Or.inr rfl
    have hgone : "gone" = v.id := Option.some.inj hid
    rw [← hgone] at hv'
    exact absurd hv' (by decide)
  exact ⟨_, rfl, rfl, rfl, (hown _ rfl rfl rfl).mpr hstrays, hunknown,
    (hbare hunknown rfl).mpr hstrays⟩

/-- **A denied slot can show what it does not have.**  The fallback names no variant; a denial shows
    its id, though without the fallback it would show `a`, and so would a ranking without
    survivors. -/
theorem unknown_fallback_shown :
    let slot : Slot Number := ⟨"s", [{ id := "a", guard := some (.text "false") }], some "gone"⟩
    let session : Session Number := { metrics := Metrics.initial }
    let deny : Policy Number := { allows := some fun _ _ => .ok false }
    let judge : Judge GuardCache Number := GuardCache.judge ⟨970, 970⟩
    let shown := fun (slot : Slot Number) (policy : Policy Number) =>
      (decide .default judge slot session policy false (.int 0) {}).1.toOption.map
        (·.result.variantId)
    shown slot deny = some "gone" ∧ ¬slot.Declares "gone" ∧
      shown slot.withoutFallback deny = some "a" ∧ shown slot {} = some "a" := by
  intro slot session deny judge shown
  refine ⟨rfl, ?_, rfl, rfl⟩
  rintro ⟨v, hv, hid⟩
  rw [List.mem_singleton.mp hv] at hid
  exact absurd hid (by decide)

end LessonVariants
