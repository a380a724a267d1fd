import LessonVariants.Selection

/-! # What decides a selection

    A decision comes from the first of five steps that applies: an empty slot, the policy's
    verdict, an override, a record that still counts, and ranking (`Route`).  Which step it is
    depends on the slot, the session, the policy and the time, and on neither the guards nor the
    scores (`route`); the decision follows from the step (`decide_eq`). -/

namespace LessonVariants

variable {ρ σ : Type}

/-! ## Denied slots -/

/-- The outcome of a denial, without names: an error if there is no id to show, else a decision that shows
    the id and asks for a weak record of it. -/
theorem Slot.denied_eq (settings : Settings ρ) (slot : Slot ρ) (first : Variant ρ)
    (why : Rationale ρ) :
    slot.denied settings first why =
      if slot.deniedChoice first = "" then .error (.deniedWithoutFallback slot.id)
      else .ok ⟨⟨slot.id, slot.deniedChoice first, why⟩,
        some ⟨slot.id, slot.deniedChoice first, .firstPick, .weak, settings.stickyScope⟩⟩ := by
  by_cases hempty : slot.deniedChoice first = ""
  · rw [if_pos hempty]
    exact if_pos (String.isEmpty_iff.mpr hempty)
  · rw [if_neg hempty]
    exact if_neg (fun h => hempty (String.isEmpty_iff.mp h))

/-- A denied slot is shown with its choice, unless that is empty. -/
theorem Slot.denied_cases (settings : Settings ρ) (slot : Slot ρ) (first : Variant ρ)
    (why : Rationale ρ) :
    slot.denied settings first why = .error (.deniedWithoutFallback slot.id) ∨
      slot.denied settings first why
        = .ok (.remembered slot (slot.deniedChoice first) why .firstPick .weak
            settings.stickyScope) := by
  rw [slot.denied_eq]
  by_cases hempty : slot.deniedChoice first = ""
  · exact Or.inl (if_pos hempty)
  · exact Or.inr (if_neg hempty)

theorem Slot.deniedChoice_congr {slot slot' : Slot ρ} {first first' : Variant ρ}
    (hfallback : slot'.fallbackId = slot.fallbackId) (hfirst : first'.id = first.id) :
    slot'.deniedChoice first' = slot.deniedChoice first := by
  rw [deniedChoice, deniedChoice, hfallback, hfirst]

/-! ## Routes -/

variable [WireScalar ρ]

/-- An override is in force by the overrides alone. -/
theorem Session.override?_congr {s s' : Session ρ} (h : s'.overrides = s.overrides)
    (settings : Settings ρ) (slotId : String) (now : ρ) :
    s'.override? settings slotId now = s.override? settings slotId now := by
  rw [override?, override?, h]

/-- The step that decides, with what it takes from the slot or from the session. -/
inductive Route (ρ : Type) where
  | noVariants
  | policyFailed (f : CallerFailure)
  | denied (first : Variant ρ)
  | forced (variantId : String)
  | retained (r : StickyRecord ρ)
  | ranked (first : Variant ρ)

/-- The step that decides a slot for a session at a time. -/
def route (settings : Settings ρ) (slot : Slot ρ) (session : Session ρ) (policy : Policy ρ)
    (now : ρ) : Route ρ :=
  match slot.variants with
  | []         => .noVariants
  | first :: _ =>
      match policy.verdict slot session with
      | .error f  => .policyFailed f
      | .ok false => .denied first
      | .ok true  =>
          match session.override? settings slot.id now with
          | some id => .forced id
          | none    =>
              match (session.stickyRecord? slot.id).filter (·.isLive now) with
              | some r => .retained r
              | none   => .ranked first

/-- The decision by ranking, from the verdicts of a judge on the eligible variants. -/
def rankedDecision (settings : Settings ρ) (judge : Judge σ ρ) (slot : Slot ρ) (first : Variant ρ)
    (session : Session ρ) (why : Rationale ρ) (trace : Bool) (st : σ) :
    Except (SelectionError ρ) (Decision ρ) × σ :=
  match judgeAll judge session slot.id (slot.variants.filter (·.suits session)) st with
  | (.error f, st)     => (.error (.guard f), st)
  | (.ok verdicts, st) => (.ok (.ofVerdicts settings slot first session why trace verdicts), st)

variable {settings : Settings ρ} {slot : Slot ρ} {session : Session ρ} {policy : Policy ρ}
  {now : ρ}

/-- Ranking fails with the failure of the judge, and with no other. -/
theorem rankedDecision_error {judge : Judge σ ρ} {first : Variant ρ} {why : Rationale ρ}
    {trace : Bool} {st : σ} {f : GuardFailure ρ} :
    (rankedDecision settings judge slot first session why trace st).1 = .error (.guard f) ↔
      (judgeAll judge session slot.id (slot.variants.filter (·.suits session)) st).1
        = .error f := by
  unfold rankedDecision
  cases judgeAll judge session slot.id (slot.variants.filter (·.suits session)) st with
  | mk outcome st' =>
      cases outcome with
      | error g =>
          constructor
          · intro h
            cases h
            rfl
          · intro h
            cases h
            rfl
      | ok verdicts => exact iff_of_false (fun h => nomatch h) (fun h => nomatch h)

/-- **The decision follows from the step that decides.**  Only ranking judges guards. -/
theorem decide_eq (judge : Judge σ ρ) (trace : Bool) (st : σ) :
    decide settings judge slot session policy trace now st =
      match route settings slot session policy now with
      | .noVariants     => (.error (.noVariants slot.id), st)
      | .policyFailed f => (.error (.policy f), st)
      | .denied first   => (slot.denied settings first { policyVersion := policy.version }, st)
      | .forced id      =>
          (.ok (.forced settings slot id { policyVersion := policy.version }), st)
      | .retained r     => (.ok (.retained slot r { policyVersion := policy.version }), st)
      | .ranked first   =>
          rankedDecision settings judge slot first session { policyVersion := policy.version } trace
            st := by
  obtain ⟨slotId, variants, fallbackId⟩ := slot
  unfold decide route
  cases variants with
  | nil => rfl
  | cons first rest =>
      dsimp only
      cases policy.verdict ⟨slotId, first :: rest, fallbackId⟩ session with
      | error f => rfl
      | ok allowed =>
          cases allowed with
          | false => rfl
          | true =>
              cases session.override? settings slotId now with
              | some id => rfl
              | none =>
                  cases (session.stickyRecord? slotId).filter (·.isLive now) with
                  | some r => rfl
                  | none => rfl

/-! ## When each step decides -/

/-- What a step needs of the slot, the session and the policy in order to decide. -/
def Route.Applies (settings : Settings ρ) (slot : Slot ρ) (session : Session ρ) (policy : Policy ρ)
    (now : ρ) : Route ρ → Prop
  | .noVariants     => slot.variants = []
  | .policyFailed f => policy.verdict slot session = .error f
  | .denied first   =>
      slot.variants.head? = some first ∧ policy.verdict slot session = .ok false
  | .forced id      =>
      policy.verdict slot session = .ok true ∧
        session.override? settings slot.id now = some id
  | .retained r     =>
      policy.verdict slot session = .ok true ∧
        session.stickyRecord? slot.id = some r ∧ r.isLive now = true
  | .ranked first   =>
      slot.variants.head? = some first ∧ policy.verdict slot session = .ok true ∧
        session.override? settings slot.id now = none ∧
        ∀ r, session.stickyRecord? slot.id = some r → r.isLive now = false

theorem Route.applies {step : Route ρ} (h : route settings slot session policy now = step) :
    step.Applies settings slot session policy now := by
  subst h
  unfold route
  cases hvariants : slot.variants with
  | nil => exact hvariants
  | cons first rest =>
      have hfirst : slot.variants.head? = some first := by rw [hvariants]; rfl
      cases hverdict : policy.verdict slot session with
      | error f => exact hverdict
      | ok allowed =>
          cases allowed with
          | false => exact ⟨hfirst, hverdict⟩
          | true =>
              cases hforced : session.override? settings slot.id now with
              | some id => exact ⟨hverdict, hforced⟩
              | none =>
                  cases hlive : (session.stickyRecord? slot.id).filter (·.isLive now) with
                  | some r => exact ⟨hverdict, Option.filter_eq_some_iff.mp hlive⟩
                  | none =>
                      refine ⟨hfirst, hverdict, hforced, fun r hr => ?_⟩
                      exact Bool.eq_false_iff.mpr (Option.filter_eq_none_iff.mp hlive r hr)

/-! ## What a decision says, and what a selection writes -/

/-- The grounds on which a decision is to be remembered: the slot is denied, an override is in force,
    or the variants were ranked. -/
inductive Grounds (settings : Settings ρ) (slot : Slot ρ) (session : Session ρ) (policy : Policy ρ)
    (now : ρ) (variantId : String) (scope : Scope) : Prop where
  | denied {first : Variant ρ} :
      slot.variants.head? = some first → policy.verdict slot session = .ok false →
        variantId = slot.deniedChoice first →
        Grounds settings slot session policy now variantId scope
  | forced :
      policy.verdict slot session = .ok true →
        session.override? settings slot.id now = some variantId → scope = settings.stickyScope →
        Grounds settings slot session policy now variantId scope
  | ranked :
      policy.verdict slot session = .ok true → session.override? settings slot.id now = none →
        (∀ r, session.stickyRecord? slot.id = some r → r.isLive now = false) →
        Grounds settings slot session policy now variantId scope

variable {judge : Judge σ ρ} {trace : Bool} {st st' : σ}

/-- **How a decision comes about**: from the step that decides, if this is one of four. -/
theorem decide_inv {d : Decision ρ}
    (h : decide settings judge slot session policy trace now st = (.ok d, st')) :
    (∃ first, route settings slot session policy now = .denied first ∧
      d = .remembered slot (slot.deniedChoice first) { policyVersion := policy.version } .firstPick
        .weak settings.stickyScope) ∨
    (∃ id, route settings slot session policy now = .forced id ∧
      d = .forced settings slot id { policyVersion := policy.version }) ∨
    (∃ r, route settings slot session policy now = .retained r ∧
      d = .retained slot r { policyVersion := policy.version }) ∨
    ∃ first, route settings slot session policy now = .ranked first ∧
      rankedDecision settings judge slot first session { policyVersion := policy.version } trace st
        = (.ok d, st') := by
  rw [decide_eq] at h
  cases hroute : route settings slot session policy now with
  | noVariants =>
      rw [hroute] at h
      exact nomatch h
  | policyFailed f =>
      rw [hroute] at h
      exact nomatch h
  | denied first =>
      rw [hroute] at h
      dsimp only at h
      rcases slot.denied_cases settings first { policyVersion := policy.version } with hno | hyes
      · rw [hno] at h
        exact nomatch h
      · rw [hyes] at h
        cases h
        exact Or.inl ⟨first, rfl, rfl⟩
  | forced id =>
      rw [hroute] at h
      cases h
      exact Or.inr (Or.inl ⟨id, rfl, rfl⟩)
  | retained r =>
      rw [hroute] at h
      cases h
      exact Or.inr (Or.inr (Or.inl ⟨r, rfl, rfl⟩))
  | ranked first =>
      rw [hroute] at h
      exact Or.inr (Or.inr (Or.inr ⟨first, rfl, h⟩))

/-- A successful ranking has a verdict on every eligible variant. -/
theorem rankedDecision_eq_ok {first : Variant ρ} {why : Rationale ρ} {d : Decision ρ}
    (h : rankedDecision settings judge slot first session why trace st = (.ok d, st')) :
    ∃ verdicts,
      judgeAll judge session slot.id (slot.variants.filter (·.suits session)) st
        = (.ok verdicts, st') ∧
      d = .ofVerdicts settings slot first session why trace verdicts := by
  unfold rankedDecision at h
  split at h
  · exact nomatch h
  · next verdicts st₁ hverdicts =>
      cases h
      exact ⟨verdicts, hverdicts, rfl⟩

/-- A decision shows the variant of a record that still counts, or is to be remembered under its own
    variant. -/
theorem decide_eq_ok {d : Decision ρ}
    (h : decide settings judge slot session policy trace now st = (.ok d, st')) :
    (d.intent = none ∧ policy.verdict slot session = .ok true ∧
      ∃ r, session.stickyRecord? slot.id = some r ∧ r.isLive now = true ∧
        d.result.variantId = r.variantId) ∨
    ∃ i, d.intent = some i ∧ i.slotId = slot.id ∧ i.variantId = d.result.variantId ∧
      Grounds settings slot session policy now i.variantId i.scope := by
  rcases decide_inv h with
    ⟨first, hroute, rfl⟩ | ⟨id, hroute, rfl⟩ | ⟨r, hroute, rfl⟩ | ⟨first, hroute, hranked⟩
  · obtain ⟨hfirst, hdenied⟩ := Route.applies hroute
    exact Or.inr ⟨_, rfl, rfl, rfl, .denied hfirst hdenied rfl⟩
  · obtain ⟨hallowed, hforced⟩ := Route.applies hroute
    exact Or.inr ⟨_, rfl, rfl, rfl, .forced hallowed hforced rfl⟩
  · obtain ⟨hallowed, hrecord, hlive⟩ := Route.applies hroute
    exact Or.inl ⟨rfl, hallowed, r, hrecord, hlive, rfl⟩
  · obtain ⟨-, hallowed, hnone, hdead⟩ := Route.applies hroute
    obtain ⟨verdicts, -, rfl⟩ := rankedDecision_eq_ok hranked
    exact Or.inr ⟨_, rfl, rfl, rfl, .ranked hallowed hnone hdead⟩

/-- A ranked decision has used no record, whether it is traced or not. -/
theorem ofScores_stickyUsed (settings : Settings ρ) (slot : Slot ρ) (first : Variant ρ)
    (why : Rationale ρ) (trace : Bool) (verdicts : List (Variant ρ × Bool))
    (scored : List (Variant ρ × ρ)) :
    (Decision.ofScores settings slot first why trace verdicts scored).result.why.stickyUsed
      = why.stickyUsed := by
  cases trace <;> rfl

/-- A decision has used the slot's record just if it asks for no new one. -/
theorem decide_stickyUsed {d : Decision ρ}
    (h : decide settings judge slot session policy trace now st = (.ok d, st')) :
    d.result.why.stickyUsed = if d.intent.isNone then some true else none := by
  rcases decide_inv h with ⟨_, -, rfl⟩ | ⟨_, -, rfl⟩ | ⟨_, -, rfl⟩ | ⟨first, -, hranked⟩
  · rfl
  · rfl
  · rfl
  · obtain ⟨verdicts, -, rfl⟩ := rankedDecision_eq_ok hranked
    exact ofScores_stickyUsed settings slot first _ trace _ _

/-- A selection succeeds with its decision; the session keeps its records, or takes a new one. -/
theorem select_eq_ok {result : SelectionResult ρ} {session' : Session ρ} :
    select settings judge slot session policy trace now st = (.ok (result, session'), st') ↔
      ∃ d, decide settings judge slot session policy trace now st = (.ok d, st') ∧
        d.result = result ∧
        (d.intent = none ∧ session' = session ∨
          ∃ i, d.intent = some i ∧ session.commit i now = .ok session') := by
  unfold select
  cases decide settings judge slot session policy trace now st with
  | mk outcome st₁ =>
      cases outcome with
      | error e => exact iff_of_false (fun h => nomatch h) (fun ⟨d, h, _⟩ => nomatch h)
      | ok d =>
          dsimp only
          constructor
          · intro h
            cases hintent : d.intent with
            | none =>
                rw [hintent] at h
                cases h
                exact ⟨d, rfl, rfl, Or.inl ⟨hintent, rfl⟩⟩
            | some i =>
                rw [hintent] at h
                dsimp only at h
                cases hcommit : session.commit i now with
                | faulty is =>
                    rw [hcommit] at h
                    exact nomatch h
                | ok s =>
                    rw [hcommit] at h
                    cases h
                    exact ⟨d, rfl, rfl, Or.inr ⟨i, hintent, hcommit⟩⟩
          · rintro ⟨d', hd, rfl, ⟨hintent, rfl⟩ | ⟨i, hintent, hcommit⟩⟩
            · cases hd
              rw [hintent]
            · cases hd
              rw [hintent]
              dsimp only
              rw [hcommit]

/-- The record of a choice bears the time at which the choice was made, if that is a real number. -/
theorem record_eq_ok {i : StickyIntent} {r : StickyRecord ρ} :
    i.record now = .ok r ↔ ∃ t, WireScalar.toReal? now = some t ∧
      r = { variantId := i.variantId, time := t, scope := i.scope, strength := i.strength,
            reason := some i.reason } := by
  unfold StickyIntent.record
  cases WireScalar.toReal? now with
  | none => exact iff_of_false (fun h => nomatch h) (fun ⟨_, h, _⟩ => nomatch h)
  | some t =>
      constructor
      · intro h
        cases h
        exact ⟨t, rfl, rfl⟩
      · rintro ⟨_, ht, rfl⟩
        cases ht
        rfl

/-- Committing a choice puts its record in the place of its slot. -/
theorem commit_eq_ok {i : StickyIntent} {session' : Session ρ} :
    session.commit i now = .ok session' ↔
      ∃ r, i.record now = .ok r ∧ session' = session.putSticky i.slotId (.record r) := by
  unfold Session.commit
  cases i.record now with
  | faulty is => exact iff_of_false (fun h => nomatch h) (fun ⟨_, h, _⟩ => nomatch h)
  | ok r =>
      constructor
      · intro h
        cases h
        exact ⟨r, rfl, rfl⟩
      · rintro ⟨_, hr, rfl⟩
        cases hr
        rfl

/-- **What a successful selection writes.**  Either it has used the slot's record and leaves the
    session alone, or it has not, and it puts the record of its choice in the slot's place. -/
theorem select_writes {result : SelectionResult ρ} {session' : Session ρ}
    (h : select settings judge slot session policy trace now st = (.ok (result, session'), st')) :
    ∃ d, decide settings judge slot session policy trace now st = (.ok d, st') ∧
      d.result = result ∧
      ((d.intent = none ∧ result.why.stickyUsed = some true ∧ session' = session) ∨
        ∃ i r, d.intent = some i ∧ i.variantId = result.variantId ∧
          result.why.stickyUsed = none ∧ i.record now = .ok r ∧
          session' = session.putSticky slot.id (.record r)) := by
  obtain ⟨d, hd, rfl, hsession⟩ := select_eq_ok.mp h
  have hused := decide_stickyUsed hd
  refine ⟨d, hd, rfl, ?_⟩
  rcases hsession with ⟨hnone, hsame⟩ | ⟨i, hi, hcommit⟩
  · rw [hnone] at hused
    exact Or.inl ⟨hnone, hused, hsame⟩
  · rw [hi] at hused
    obtain ⟨r, hr, hput⟩ := commit_eq_ok.mp hcommit
    rcases decide_eq_ok hd with ⟨hnone, -⟩ | ⟨i', hi', hslot, hvariant, -⟩
    · exact nomatch hi.symm.trans hnone
    · cases hi.symm.trans hi'
      rw [hslot] at hput
      exact Or.inr ⟨i, r, hi, hvariant, hused, hr, hput⟩

/-- **What a successful selection does.**  Either it shows the variant of a record that still counts
    and leaves the session alone, or it writes a record of the variant that it shows, without a
    lifetime. -/
theorem select_cases {result : SelectionResult ρ} {session' : Session ρ}
    (h : select settings judge slot session policy trace now st = (.ok (result, session'), st')) :
    ∃ d, decide settings judge slot session policy trace now st = (.ok d, st') ∧
      ((d.intent = none ∧ session' = session ∧ policy.verdict slot session = .ok true ∧
          ∃ r, session.stickyRecord? slot.id = some r ∧ r.isLive now = true ∧
            result.variantId = r.variantId) ∨
        ∃ r : StickyRecord ρ, session' = session.putSticky slot.id (.record r) ∧
          r.variantId = result.variantId ∧ r.ttlMs = none ∧
          Grounds settings slot session policy now result.variantId r.scope) := by
  obtain ⟨d, hd, rfl, hwrites⟩ := select_writes h
  refine ⟨d, hd, ?_⟩
  rcases decide_eq_ok hd with ⟨hintent, hretained⟩ | ⟨i, hintent, -, hvariant, hgrounds⟩
  · rcases hwrites with ⟨-, -, hsame⟩ | ⟨i, -, hi, -⟩
    · exact Or.inl ⟨hintent, hsame, hretained⟩
    · exact nomatch hintent.symm.trans hi
  · rcases hwrites with ⟨hnone, -⟩ | ⟨i', r, hi', -, -, hrecord, hput⟩
    · exact nomatch hintent.symm.trans hnone
    · cases hintent.symm.trans hi'
      obtain ⟨t, -, rfl⟩ := record_eq_ok.mp hrecord
      rw [hvariant] at hgrounds
      exact Or.inr ⟨_, hput, hvariant, rfl, hgrounds⟩

end LessonVariants
