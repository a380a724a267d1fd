import LessonVariants.Proofs.Selection.Routes

/-! # Earlier steps shut out later ones

    A denial, an override in force and a record that still counts each decide on their own.  What
    they decide is a function of the little that they read: a denial reads the slot, an override
    the slot's id and the overrides, a record the slot's id, the overrides and that record.  Two
    selections that agree there come to the same decision, however they differ elsewhere and
    whoever judges their guards (`precedence_is_independence`).

    No judge is asked in any of the three cases: the judge of the theorem is arbitrary, and its
    state comes out as it went in. -/

namespace LessonVariants

variable {ρ σ σ' : Type}

/-! ## The three cases -/

/-- A slot that has variants and is denied to a session. -/
structure Denied (slot : Slot ρ) (session : Session ρ) (policy : Policy ρ) : Prop where
  variants : slot.variants ≠ []
  verdict  : policy.verdict slot session = .ok false

/-- A slot that has variants and is allowed to a session. -/
structure Allowed (slot : Slot ρ) (session : Session ρ) (policy : Policy ρ) : Prop where
  variants : slot.variants ≠ []
  verdict  : policy.verdict slot session = .ok true

/-- A forced decision shows of the slot nothing but its id. -/
theorem Decision.forced_congr {slot slot' : Slot ρ} (h : slot'.id = slot.id) (settings : Settings ρ)
    (id : String) (why : Rationale ρ) :
    forced settings slot' id why = forced settings slot id why := by
  unfold forced remembered
  rw [h]

/-- A retained decision shows of the slot nothing but its id. -/
theorem Decision.retained_congr {slot slot' : Slot ρ} (h : slot'.id = slot.id)
    (r : StickyRecord ρ) (why : Rationale ρ) :
    retained slot' r why = retained slot r why := by
  unfold retained
  rw [h]

variable [WireScalar ρ]

/-- An allowed slot on which an override is in force. -/
structure Forced (settings : Settings ρ) (slot : Slot ρ) (session : Session ρ) (policy : Policy ρ)
    (now : ρ) : Prop where
  allowed  : Allowed slot session policy
  override : ∃ id, session.override? settings slot.id now = some id

/-- An allowed slot without an override in force whose record still counts. -/
structure Retained (settings : Settings ρ) (slot : Slot ρ) (session : Session ρ)
    (policy : Policy ρ) (now : ρ) : Prop where
  allowed  : Allowed slot session policy
  override : session.override? settings slot.id now = none
  record   : ∃ r, session.stickyRecord? slot.id = some r ∧ r.isLive now = true

variable {settings : Settings ρ} {slot slot' : Slot ρ} {session session' : Session ρ}
  {policy : Policy ρ} {now : ρ} {judge : Judge σ ρ} {trace : Bool} {st : σ}

/-! ## What each case decides -/

/-- A denial decides on a slot with its choice for denied slots. -/
theorem Denied.decide_eq (h : Denied slot session policy) (settings : Settings ρ)
    (judge : Judge σ ρ) (trace : Bool) (now : ρ) (st : σ) :
    ∃ first, slot.variants.head? = some first ∧
      decide settings judge slot session policy trace now st =
        (slot.denied settings first { policyVersion := policy.version }, st) := by
  obtain ⟨first, rest, hvariants⟩ := List.exists_cons_of_ne_nil h.variants
  refine ⟨first, by rw [hvariants]; rfl, ?_⟩
  unfold decide
  simp only [hvariants, h.verdict]

/-- An override in force decides on an allowed slot. -/
theorem Allowed.decide_forced (h : Allowed slot session policy) {id : String}
    (hoverride : session.override? settings slot.id now = some id) :
    decide settings judge slot session policy trace now st =
      (.ok (.forced settings slot id { policyVersion := policy.version }), st) := by
  obtain ⟨first, rest, hvariants⟩ := List.exists_cons_of_ne_nil h.variants
  unfold decide
  simp only [hvariants, h.verdict, hoverride]

/-- A record that still counts decides on an allowed slot without an override in force. -/
theorem Allowed.decide_retained (h : Allowed slot session policy) {r : StickyRecord ρ}
    (hoverride : session.override? settings slot.id now = none)
    (hrecord : session.stickyRecord? slot.id = some r) (hlive : r.isLive now = true) :
    decide settings judge slot session policy trace now st =
      (.ok (.retained slot r { policyVersion := policy.version }), st) := by
  obtain ⟨first, rest, hvariants⟩ := List.exists_cons_of_ne_nil h.variants
  have hfilter : (session.stickyRecord? slot.id).filter (·.isLive now) = some r :=
    Option.filter_eq_some_iff.mpr ⟨hrecord, hlive⟩
  unfold decide
  simp only [hvariants, h.verdict, hoverride, hfilter]

/-! ## No guard has a part in it -/

/-- An outcome that leaves the judge's state alone, that no guard makes fail, and whose decision
    records no guard and no score. -/
structure Unjudged (st : σ) (outcome : Except (SelectionError ρ) (Decision ρ) × σ) : Prop where
  state    : outcome.2 = st
  noGuard  : ∀ f, outcome.1 ≠ .error (.guard f)
  decision : ∀ d, outcome.1 = .ok d → d.result.why.guards = [] ∧ d.result.why.score = []

theorem Denied.unjudged (h : Denied slot session policy) :
    Unjudged st (decide settings judge slot session policy trace now st) := by
  obtain ⟨first, -, hdecide⟩ := h.decide_eq settings judge trace now st
  rw [hdecide]
  rcases slot.denied_cases settings first { policyVersion := policy.version } with hno | hyes
  · rw [hno]
    exact ⟨rfl, (fun f hf => nomatch hf), fun d hd => nomatch hd⟩
  · rw [hyes]
    refine ⟨rfl, (fun f hf => nomatch hf), fun d hd => ?_⟩
    cases hd
    exact ⟨rfl, rfl⟩

theorem Forced.unjudged (h : Forced settings slot session policy now) :
    Unjudged st (decide settings judge slot session policy trace now st) := by
  obtain ⟨id, hoverride⟩ := h.override
  rw [h.allowed.decide_forced hoverride]
  refine ⟨rfl, (fun f hf => nomatch hf), fun d hd => ?_⟩
  cases hd
  exact ⟨rfl, rfl⟩

theorem Retained.unjudged (h : Retained settings slot session policy now) :
    Unjudged st (decide settings judge slot session policy trace now st) := by
  obtain ⟨r, hrecord, hlive⟩ := h.record
  rw [h.allowed.decide_retained h.override hrecord hlive]
  refine ⟨rfl, (fun f hf => nomatch hf), fun d hd => ?_⟩
  cases hd
  exact ⟨rfl, rfl⟩

/-- **Only a retained decision asks for no record.** -/
theorem decide_intent {d : Decision ρ}
    (h : (decide settings judge slot session policy trace now st).1 = .ok d) :
    d.intent = none ↔ Retained settings slot session policy now := by
  constructor
  · intro hnone
    rcases decide_eq_ok (Prod.ext h rfl) with ⟨-, hverdict, r, hrecord, hlive, -⟩ | ⟨i, hi, -⟩
    · have hallowed : Allowed slot session policy := by
        refine ⟨fun hempty => ?_, hverdict⟩
        unfold decide at h
        rw [hempty] at h
        exact nomatch h
      refine ⟨hallowed, ?_, r, hrecord, hlive⟩
      cases hoverride : session.override? settings slot.id now with
      | none => rfl
      | some id =>
          -- with an override in force the decision would ask for its record
          rw [hallowed.decide_forced hoverride] at h
          cases h
          exact nomatch hnone
    · rw [hi] at hnone
      exact nomatch hnone
  · intro hretained
    obtain ⟨r, hrecord, hlive⟩ := hretained.record
    rw [hretained.allowed.decide_retained hretained.override hrecord hlive] at h
    cases h
    rfl

/-! ## The theorem -/

/-- **Precedence is independence.**  Take two selections at one time under one policy.

    A slot denied to a session shows its choice for denied slots, the fallback or else the first
    variant, and asks for a weak record of it; if that choice has no id, the denial is an error, and
    there is no other one.  Denied to two sessions, the slot has one outcome.

    An allowed slot with an override in force shows the variant of the override and asks for a
    strong record of it.  So does every allowed slot with its id, for every session with the same
    overrides.

    An allowed slot without an override in force and with a record that still counts shows the
    variant of the record and asks for no record.  So does every allowed slot with its id, for every
    session with the same overrides and the same record for the slot.

    Nothing else matters: neither the trace flag nor the judge of the guards.  In all three cases no
    guard is judged; and only the third asks for no record. -/
theorem precedence_is_independence (settings : Settings ρ) (policy : Policy ρ) (now : ρ)
    (judge : Judge σ ρ) (judge' : Judge σ' ρ) (trace trace' : Bool) (st : σ) (st' : σ')
    (slot slot' : Slot ρ) (session session' : Session ρ) :
    let outcome := decide settings judge slot session policy trace now st
    (Denied slot session policy →
      (∃ first, slot.variants.head? = some first ∧
        outcome.1 =
          if slot.deniedChoice first = "" then .error (.deniedWithoutFallback slot.id)
          else .ok ⟨⟨slot.id, slot.deniedChoice first, { policyVersion := policy.version }⟩,
            some ⟨slot.id, slot.deniedChoice first, .firstPick, .weak, settings.stickyScope⟩⟩) ∧
      (Denied slot session' policy →
        (decide settings judge' slot session' policy trace' now st').1 = outcome.1)) ∧
    (Forced settings slot session policy now →
      (∃ id, session.override? settings slot.id now = some id ∧
        outcome.1 =
          .ok ⟨⟨slot.id, id, { policyVersion := policy.version, overridesUsed := some true }⟩,
            some ⟨slot.id, id, .teacherChoice, .strong, settings.stickyScope⟩⟩) ∧
      (Allowed slot' session' policy → slot'.id = slot.id →
        session'.overrides = session.overrides →
        (decide settings judge' slot' session' policy trace' now st').1 = outcome.1)) ∧
    (Retained settings slot session policy now →
      (∃ r, session.stickyRecord? slot.id = some r ∧
        outcome.1 =
          .ok ⟨⟨slot.id, r.variantId,
            { policyVersion := policy.version, stickyUsed := some true }⟩, none⟩) ∧
      (Allowed slot' session' policy → slot'.id = slot.id →
        session'.overrides = session.overrides →
        session'.stickyRecord? slot.id = session.stickyRecord? slot.id →
        (decide settings judge' slot' session' policy trace' now st').1 = outcome.1)) ∧
    (Denied slot session policy ∨ Forced settings slot session policy now ∨
        Retained settings slot session policy now →
      Unjudged st outcome) ∧
    ∀ d, outcome.1 = .ok d → (d.intent = none ↔ Retained settings slot session policy now) := by
  intro outcome
  refine ⟨fun h => ⟨?_, fun h' => ?_⟩, fun h => ⟨?_, fun h' hid ho => ?_⟩,
    fun h => ⟨?_, fun h' hid ho hr => ?_⟩, ?_, fun d => decide_intent⟩
  · obtain ⟨first, hfirst, hdecide⟩ := h.decide_eq settings judge trace now st
    refine ⟨first, hfirst, ?_⟩
    rw [show outcome = _ from hdecide]
    exact slot.denied_eq settings first _
  · obtain ⟨first, hfirst, hdecide⟩ := h.decide_eq settings judge trace now st
    obtain ⟨first', hfirst', hdecide'⟩ := h'.decide_eq settings judge' trace' now st'
    rw [hfirst] at hfirst'
    cases hfirst'
    rw [show outcome = _ from hdecide, hdecide']
  · obtain ⟨id, hoverride⟩ := h.override
    exact ⟨id, hoverride, congrArg Prod.fst (h.allowed.decide_forced hoverride)⟩
  · obtain ⟨id, hoverride⟩ := h.override
    have hoverride' : session'.override? settings slot'.id now = some id := by
      rw [Session.override?_congr ho, hid, hoverride]
    rw [show outcome = _ from h.allowed.decide_forced hoverride, h'.decide_forced hoverride',
      Decision.forced_congr hid]
  · obtain ⟨r, hrecord, hlive⟩ := h.record
    exact ⟨r, hrecord, congrArg Prod.fst (h.allowed.decide_retained h.override hrecord hlive)⟩
  · obtain ⟨r, hrecord, hlive⟩ := h.record
    have hoverride' : session'.override? settings slot'.id now = none := by
      rw [Session.override?_congr ho, hid, h.override]
    have hrecord' : session'.stickyRecord? slot'.id = some r := by rw [hid, hr, hrecord]
    rw [show outcome = _ from h.allowed.decide_retained h.override hrecord hlive,
      h'.decide_retained hoverride' hrecord' hlive, Decision.retained_congr hid]
  · rintro (h | h | h)
    · exact h.unjudged
    · exact h.unjudged
    · exact h.unjudged

/-- The guard of `a` would abort a ranking, but it is never judged.  A denial shows `a`, or fails where the
    only variant has an empty id; the override shows `b` and the record shows `c`, the record without
    being written again.  Each decides as it does where no guard stands in the way. -/
theorem precedence_is_independence_abortive :
    let abortive : Slot Rat :=
      ⟨"s", [{ id := "a", guard := some (.text "session.trace[1e999] == 1") }], none⟩
    let nameless : Slot Rat := ⟨"s", [{ id := "" }], none⟩
    let plain : Slot Rat := ⟨"s", [{ id := "d" }, { id := "e" }], some "e"⟩
    let judge : Judge GuardCache Rat := GuardCache.judge ⟨970, 970⟩
    let judge' : Judge Unit Rat := fun _ st => (.ok true, st)
    let deny : Policy Rat := { allows := some fun _ _ => .ok false }
    let fresh : Session Rat := { metrics := Metrics.initial }
    let overrides : Overrides Rat := { forceVariant := [("s", "b")], expiresAt := some 5 }
    let record : StickyRecord Rat := { variantId := "c", time := 1, ttlMs := some 9 }
    let forcing : Session Rat := { fresh with overrides := some overrides }
    let forcing' : Session Rat := { forcing with env := { device := .mobile } }
    let keeping : Session Rat := { fresh with sticky := [("s", .record record)] }
    let keeping' : Session Rat := { keeping with env := { device := .mobile } }
    (Denied abortive fresh deny ∧ Denied abortive forcing deny ∧
      (decide .default judge abortive fresh deny false 5 {}).1
        = .ok ⟨⟨"s", "a", { policyVersion := "dev" }⟩, some ⟨"s", "a", .firstPick, .weak, .lesson⟩⟩ ∧
      (decide .default judge' abortive forcing deny true 5 ()).1
        = (decide .default judge abortive fresh deny false 5 {}).1) ∧
    (Denied nameless fresh deny ∧
      (decide .default judge nameless fresh deny false 5 {}).1
        = .error (.deniedWithoutFallback "s")) ∧
    (Forced .default abortive forcing {} 5 ∧ Allowed plain forcing' {} ∧
      (decide .default judge abortive forcing {} false 5 {}).1
        = .ok ⟨⟨"s", "b", { policyVersion := "dev", overridesUsed := some true }⟩,
          some ⟨"s", "b", .teacherChoice, .strong, .lesson⟩⟩ ∧
      (decide .default judge' plain forcing' {} true 5 ()).1
        = (decide .default judge abortive forcing {} false 5 {}).1) ∧
    Retained .default abortive keeping {} 5 ∧ Allowed plain keeping' {} ∧
      (decide .default judge abortive keeping {} false 5 {}).1
        = .ok ⟨⟨"s", "c", { policyVersion := "dev", stickyUsed := some true }⟩, none⟩ ∧
      (decide .default judge' plain keeping' {} true 5 ()).1
        = (decide .default judge abortive keeping {} false 5 {}).1 := by
  intro abortive nameless plain judge judge' deny fresh overrides record forcing forcing' keeping
    keeping'
  have hsome : ∀ {v : Variant Rat} {vs : List (Variant Rat)}, v :: vs ≠ [] := List.cons_ne_nil _ _
  have hdenied : Denied abortive fresh deny := ⟨hsome, rfl⟩
  have hdenied' : Denied abortive forcing deny := ⟨hsome, rfl⟩
  have hnameless : Denied nameless fresh deny := ⟨hsome, rfl⟩
  have hlive : record.isLive 5 = true := by decide +kernel
  have hforced : Forced .default abortive forcing {} 5 := ⟨⟨hsome, rfl⟩, "b", rfl⟩
  have hretained : Retained .default abortive keeping {} 5 :=
    ⟨⟨hsome, rfl⟩, rfl, record, rfl, hlive⟩
  have hallowed : Allowed plain forcing' {} := ⟨hsome, rfl⟩
  have hallowed' : Allowed plain keeping' {} := ⟨hsome, rfl⟩
  obtain ⟨hdeny, -⟩ := precedence_is_independence Settings.default deny 5 judge judge' false true {}
    () abortive abortive fresh forcing
  obtain ⟨hfail, -⟩ := precedence_is_independence Settings.default deny 5 judge judge' false true {}
    () nameless nameless fresh forcing
  obtain ⟨-, hforce, -⟩ := precedence_is_independence Settings.default {} 5 judge judge' false true
    {} () abortive plain forcing forcing'
  obtain ⟨-, -, hkeep, -⟩ := precedence_is_independence Settings.default {} 5 judge judge' false
    true {} () abortive plain keeping keeping'
  obtain ⟨⟨first, hfirst, hshown⟩, hsame⟩ := hdeny hdenied
  cases hfirst
  obtain ⟨⟨first', hfirst', herror⟩, -⟩ := hfail hnameless
  cases hfirst'
  obtain ⟨⟨id, hid, hforcedShown⟩, hforcedSame⟩ := hforce hforced
  cases hid
  obtain ⟨⟨r, hr, hretainedShown⟩, hretainedSame⟩ := hkeep hretained
  cases hr
  exact ⟨⟨hdenied, hdenied', hshown, hsame hdenied'⟩, ⟨hnameless, herror⟩,
    ⟨hforced, hallowed, hforcedShown, hforcedSame hallowed rfl rfl⟩,
    hretained, hallowed', hretainedShown, hretainedSame hallowed' rfl rfl rfl⟩

end LessonVariants
