import LessonVariants.Proofs.Number.Order
import LessonVariants.Proofs.Selection.Routes
import LessonVariants.Proofs.Session.Changes

/-! # Slots keep their variant

    A selection leaves a record of the variant that it shows, and the record counts at once.  From
    then on the slot keeps its variant, whatever else changes, as long as the terms of the first
    selection hold: nobody writes the slot's record or ends its scope, the policy's verdict, the
    fallback and the first variant stay the same, and so do the overrides (`selections_stick`).

    The steps of a decision hand over to each other: a record is kept where an override has
    expired, and an override that had no force does not gain any.  `Pinned` is the invariant. -/

namespace LessonVariants

variable {ρ σ : Type} [WireScalar ρ]

/-! ## Records and overrides over time -/

theorem StickyRecord.isLive_of_untimed {r : StickyRecord ρ} (h : r.ttlMs = none) (now : ρ) :
    r.isLive now = true := by
  rw [isLive, h]

/-- Whether overrides have expired. -/
def Overrides.isExpired (o : Overrides ρ) (settings : Settings ρ) (now : ρ) : Bool :=
  settings.honorOverrideExpiry &&
    (match o.expiresAt with
      | some t => Scalar.lt t now
      | none   => false)

/-- Overrides that have expired stay so. -/
theorem Overrides.isExpired_later {o : Overrides ρ} {settings : Settings ρ} {t now : ρ}
    (hle : Scalar.le t now = true) (h : o.isExpired settings t = true) :
    o.isExpired settings now = true := by
  rw [isExpired, Bool.and_eq_true] at h ⊢
  refine ⟨h.1, ?_⟩
  have hexpired := h.2
  cases hends : o.expiresAt with
  | none =>
      rw [hends] at hexpired
      exact hexpired
  | some e =>
      rw [hends] at hexpired
      exact Scalar.lt_of_lt_of_le hexpired hle

namespace Session

theorem isStickyLive_of_record {s : Session ρ} {slotId : String} {r : StickyRecord ρ} {now : ρ}
    (h : s.stickyRecord? slotId = some r) (hlive : r.isLive now = true) :
    s.isStickyLive slotId now = true := by
  obtain ⟨e, he, hr⟩ := Option.bind_eq_some_iff.mp h
  rw [isStickyLive, he]
  dsimp only
  rw [StickyEntry.isLive, hr]
  exact hlive

theorem stickyRecord?_of_get? {s : Session ρ} {slotId : String} {r : StickyRecord ρ}
    (h : s.sticky.get? slotId = some (.record r)) : s.stickyRecord? slotId = some r := by
  rw [stickyRecord?, h]
  rfl

theorem override?_eq (s : Session ρ) (settings : Settings ρ) (slotId : String) (now : ρ) :
    s.override? settings slotId now =
      s.overrides.bind fun o => (o.forceVariant.get? slotId).bind fun forced =>
        if forced.isEmpty || o.isExpired settings now then none else some forced := rfl

theorem override?_eq_some {s : Session ρ} {settings : Settings ρ} {slotId id : String} {now : ρ} :
    s.override? settings slotId now = some id ↔
      ∃ o, s.overrides = some o ∧ o.forceVariant.get? slotId = some id ∧ id.isEmpty = false ∧
        o.isExpired settings now = false := by
  rw [override?_eq, Option.bind_eq_some_iff]
  refine exists_congr fun o => and_congr_right fun _ => ?_
  rw [Option.bind_eq_some_iff]
  constructor
  · rintro ⟨forced, hforced, h⟩
    cases hskip : forced.isEmpty || o.isExpired settings now with
    | true =>
        rw [if_pos hskip] at h
        exact nomatch h
    | false =>
        rw [if_neg (Bool.eq_false_iff.mp hskip)] at h
        cases h
        exact ⟨hforced, Bool.or_eq_false_iff.mp hskip⟩
  · rintro ⟨hid, hnot⟩
    exact ⟨id, hid, if_neg (Bool.eq_false_iff.mp (Bool.or_eq_false_iff.mpr hnot))⟩

/-- An override that is in force was in force before. -/
theorem override?_earlier {s : Session ρ} {settings : Settings ρ} {slotId id : String} {t now : ρ}
    (hle : Scalar.le t now = true) (h : s.override? settings slotId now = some id) :
    s.override? settings slotId t = some id := by
  obtain ⟨o, ho, hid, hempty, hnow⟩ := override?_eq_some.mp h
  refine override?_eq_some.mpr ⟨o, ho, hid, hempty, Bool.eq_false_iff.mpr fun ht => ?_⟩
  rw [Overrides.isExpired_later hle ht] at hnow
  exact nomatch hnow
end Session

/-! ## Runs -/

/-- Where a run stands: the session, the state of the judge, and the time of the last selection. -/
structure Moment (σ ρ : Type) where
  session : Session ρ
  state   : σ
  time    : ρ

/-- What happens to a session: selections, changes of its records, updates, and assignments of its
    other fields by its owner. -/
inductive Action (ρ : Type) where
  | select (slot : Slot ρ) (policy : Policy ρ) (trace : Bool) (now : ρ)
  | setSticky (slotId : String) (e : StickyEntry ρ)
  | endScope (scope : Scope)
  | update (u : Update ρ)
  | assign (other : Session ρ)

/-- The moment after an action.  A selection that fails leaves the session alone. -/
def Moment.after (settings : Settings ρ) (judge : Judge σ ρ) (m : Moment σ ρ) :
    Action ρ → Moment σ ρ
  | .select slot policy trace now =>
      match select settings judge slot m.session policy trace now m.state with
      | (.ok (_, session), st) => ⟨session, st, now⟩
      | (.error _, st)         => ⟨m.session, st, now⟩
  | .setSticky slotId e => { m with session := m.session.putSticky slotId e }
  | .endScope scope     => { m with session := m.session.endScope scope }
  | .update u           => { m with session := m.session.update u }
  | .assign other       => { m with session := { other with sticky := m.session.sticky } }

/-- What has to stay the same for a slot to keep its variant. -/
structure Terms (ρ : Type) where
  slotId     : String
  scope      : Scope
  verdict    : Except CallerFailure Bool
  fallbackId : Option String
  firstId    : Option String
  overrides  : Option (Overrides ρ)

namespace Terms

/-- The terms on which a selection was made, with the scope of the record that it wrote. -/
def of (slot : Slot ρ) (policy : Policy ρ) (session : Session ρ) (scope : Scope) : Terms ρ where
  slotId     := slot.id
  scope      := scope
  verdict    := policy.verdict slot session
  fallbackId := slot.fallbackId
  firstId    := slot.variants.head?.map (·.id)
  overrides  := session.overrides

/-- Whether a selection of the slot meets the terms. -/
structure Meets (terms : Terms ρ) (slot : Slot ρ) (session : Session ρ) (policy : Policy ρ) :
    Prop where
  slotId   : slot.id = terms.slotId
  fallback : slot.fallbackId = terms.fallbackId
  first    : ∀ first, slot.variants.head? = some first → terms.firstId = some first.id
  verdict  : ∀ allowed, policy.verdict slot session = .ok allowed → terms.verdict = .ok allowed

/-- Whether the terms let an action happen.  Time never runs back. -/
def Allow (terms : Terms ρ) (m : Moment σ ρ) : Action ρ → Prop
  | .select slot policy _ now =>
      Scalar.le m.time now = true ∧
        (slot.id = terms.slotId → terms.Meets slot m.session policy)
  | .setSticky slotId _ => slotId ≠ terms.slotId
  | .endScope scope     => scope ≠ terms.scope
  | .update _           => True
  | .assign other       => other.overrides = terms.overrides

/-- The moments that a run under the terms comes to. -/
inductive Leads (settings : Settings ρ) (judge : Judge σ ρ) (terms : Terms ρ) (m : Moment σ ρ) :
    Moment σ ρ → Prop
  | here : Leads settings judge terms m m
  | next {m' : Moment σ ρ} {a : Action ρ} : Leads settings judge terms m m' → terms.Allow m' a →
      Leads settings judge terms m (m'.after settings judge a)

end Terms

/-! ## The invariant -/

/-- A moment at which the slot of the terms can show no variant but one.  A denied slot shows the
    choice of the terms; an allowed one has an untimed record of the variant, and every override
    still to be in force agrees with the record. -/
structure Pinned (settings : Settings ρ) (terms : Terms ρ) (id : String) (m : Moment σ ρ) :
    Prop where
  overrides : m.session.overrides = terms.overrides
  denied    : terms.verdict = .ok false → ∀ (slot : Slot ρ) (first : Variant ρ),
    slot.fallbackId = terms.fallbackId → terms.firstId = some first.id →
      slot.deniedChoice first = id
  record    : terms.verdict = .ok true → ∃ r : StickyRecord ρ,
    m.session.sticky.get? terms.slotId = some (.record r) ∧
      r.variantId = id ∧ r.ttlMs = none ∧ r.scope = terms.scope
  forced    : terms.verdict = .ok true → ∀ (now : ρ) (id' : String), Scalar.le m.time now = true →
    m.session.override? settings terms.slotId now = some id' →
      id' = id ∧ terms.scope = settings.stickyScope

variable {settings : Settings ρ} {judge : Judge σ ρ} {terms : Terms ρ} {id : String}
  {m m' : Moment σ ρ} {slot : Slot ρ} {policy : Policy ρ} {trace : Bool} {now : ρ} {st' : σ}
  {result : SelectionResult ρ} {session' : Session ρ}

/-- **A selection that writes a record pins its slot** to the variant that it shows, under the terms
    that it was made on. -/
theorem pinned_of_select {session : Session ρ} {st : σ} {d : Decision ρ} {i : StickyIntent}
    (h : select settings judge slot session policy trace now st = (.ok (result, session'), st'))
    (hd : decide settings judge slot session policy trace now st = (.ok d, st'))
    (hi : d.intent = some i) :
    ∃ r : StickyRecord ρ, session'.sticky.get? slot.id = some (.record r) ∧
      Pinned settings (.of slot policy session r.scope) result.variantId
        (⟨session', st', now⟩ : Moment σ ρ) := by
  obtain ⟨d', hd', ⟨hnone, -⟩ | ⟨r, rfl, hvariant, httl, hgrounds⟩⟩ := select_cases h
  · rw [hd] at hd'
    cases hd'
    rw [hi] at hnone
    exact nomatch hnone
  have hget := session.putSticky_get?_self slot.id (.record r)
  refine ⟨r, hget, rfl, ?_, fun _ => ⟨r, hget, hvariant, httl, rfl⟩, ?_⟩
  · intro hdenied slot₁ first₁ hfallback₁ hfirst₁
    cases hgrounds with
    | @denied first hfirst _ hchoice =>
        rw [Terms.of, hfirst] at hfirst₁
        rw [hchoice]
        exact Slot.deniedChoice_congr hfallback₁ (Option.some.inj hfirst₁).symm
    | forced hallowed => exact nomatch hallowed.symm.trans hdenied
    | ranked hallowed => exact nomatch hallowed.symm.trans hdenied
  · intro hallowed now' id' hle hforced
    -- an override in force later was in force already when the record was written
    have hbefore : session.override? settings slot.id now = some id' :=
      Session.override?_earlier hle hforced
    cases hgrounds with
    | denied _ hdenied _ => exact nomatch hdenied.symm.trans hallowed
    | forced _ hnow hscope =>
        rw [hbefore] at hnow
        cases hnow
        exact ⟨rfl, hscope⟩
    | ranked _ hnone _ =>
        rw [hbefore] at hnone
        exact nomatch hnone

/-- What leaves the slot's record and the overrides alone leaves the slot pinned. -/
theorem Pinned.frame (h : Pinned settings terms id m)
    (hoverrides : m'.session.overrides = m.session.overrides)
    (hkept : ∀ r : StickyRecord ρ, r.scope = terms.scope →
      m.session.sticky.get? terms.slotId = some (.record r) →
        m'.session.sticky.get? terms.slotId = some (.record r))
    (htime : ∀ now, Scalar.le m'.time now = true → Scalar.le m.time now = true) :
    Pinned settings terms id m' where
  overrides := hoverrides.trans h.overrides
  denied := h.denied
  record hallowed := by
    obtain ⟨r, hget, hvariant, httl, hscope⟩ := h.record hallowed
    exact ⟨r, hkept r hscope hget, hvariant, httl, hscope⟩
  forced hallowed now id' hle hforced := by
    rw [Session.override?_congr hoverrides] at hforced
    exact h.forced hallowed now id' (htime now hle) hforced

/-- **A pinned slot shows its variant**, and is still pinned. -/
theorem Pinned.select (h : Pinned settings terms id m) (hle : Scalar.le m.time now = true)
    (hmeets : terms.Meets slot m.session policy)
    (hselect : select settings judge slot m.session policy trace now m.state
      = (.ok (result, session'), st')) :
    result.variantId = id ∧
      Pinned settings terms id (⟨session', st', now⟩ : Moment σ ρ) := by
  have htime : ∀ now', Scalar.le now now' = true → Scalar.le m.time now' = true :=
    fun _ => Scalar.le_trans hle
  obtain ⟨d, -, ⟨-, rfl, hallowed, r, hrecord, -, hshown⟩ | ⟨r, rfl, hvariant, httl, hgrounds⟩⟩ :=
    select_cases hselect
  · obtain ⟨r', hget, hvariant, -⟩ := h.record (hmeets.verdict _ hallowed)
    rw [hmeets.slotId, Session.stickyRecord?_of_get? hget] at hrecord
    cases hrecord
    exact ⟨hshown.trans hvariant, h.frame rfl (fun _ _ hr => hr) htime⟩
  · rw [hmeets.slotId]
    have hagrees : result.variantId = id ∧ (terms.verdict = .ok true → r.scope = terms.scope) := by
      cases hgrounds with
      | @denied first hfirst hdenied hchoice =>
          have hterms := hmeets.verdict _ hdenied
          have hid := h.denied hterms slot first hmeets.fallback (hmeets.first first hfirst)
          exact ⟨hchoice.trans hid, fun hallowed => nomatch hterms.symm.trans hallowed⟩
      | forced hallowed hnow hscope =>
          rw [hmeets.slotId] at hnow
          obtain ⟨hid, hsame⟩ := h.forced (hmeets.verdict _ hallowed) now _ hle hnow
          exact ⟨hid, fun _ => hscope.trans hsame.symm⟩
      | ranked hallowed _ hdead =>
          -- the record of a pinned slot counts at every time, so nothing is ranked
          obtain ⟨r', hget, -, huntimed, -⟩ := h.record (hmeets.verdict _ hallowed)
          rw [hmeets.slotId] at hdead
          have hlive := StickyRecord.isLive_of_untimed huntimed now
          rw [hdead r' (Session.stickyRecord?_of_get? hget)] at hlive
          exact nomatch hlive
    obtain ⟨hid, hscope⟩ := hagrees
    refine ⟨hid, h.overrides, h.denied, fun hallowed => ?_, fun hallowed now' id' hle' => ?_⟩
    · exact ⟨r, m.session.putSticky_get?_self terms.slotId (.record r), hvariant.trans hid, httl,
        hscope hallowed⟩
    · exact h.forced hallowed now' id' (htime now' hle')

/-- One allowed action leaves the slot pinned. -/
theorem Pinned.after (h : Pinned settings terms id m) {a : Action ρ} (hallow : terms.Allow m a) :
    Pinned settings terms id (m.after settings judge a) := by
  cases a with
  | select slot policy trace now =>
      obtain ⟨hle, hmeets⟩ := hallow
      have htime : ∀ now', Scalar.le now now' = true → Scalar.le m.time now' = true :=
        fun _ => Scalar.le_trans hle
      cases hselect :
        LessonVariants.select settings judge slot m.session policy trace now m.state with
      | mk outcome st =>
          rw [Moment.after, hselect]
          cases outcome with
          | error e => exact h.frame rfl (fun _ _ hr => hr) htime
          | ok shown =>
              obtain ⟨result, session'⟩ := shown
              by_cases hslot : slot.id = terms.slotId
              · exact (h.select hle (hmeets hslot) hselect).2
              · obtain ⟨_, -, ⟨-, rfl, -⟩ | ⟨r, rfl, -⟩⟩ := select_cases hselect
                · exact h.frame rfl (fun _ _ hr => hr) htime
                · -- another slot's record is written
                  refine h.frame rfl (fun r' _ hr => ?_) htime
                  show (m.session.putSticky slot.id (.record r)).sticky.get? terms.slotId = _
                  rw [Session.putSticky_get?, if_neg (Ne.symm hslot)]
                  exact hr
  | setSticky slotId e =>
      refine h.frame rfl (fun r _ hr => ?_) (fun _ hle => hle)
      show (m.session.putSticky slotId e).sticky.get? terms.slotId = some (.record r)
      rw [Session.putSticky_get?, if_neg (Ne.symm hallow)]
      exact hr
  | endScope scope =>
      refine h.frame rfl (fun r hscope hr => ?_) (fun _ hle => hle)
      exact Session.endScope_get? hr (fun heq => hallow (heq.symm.trans hscope))
  | update u =>
      refine h.frame (Session.update_overrides m.session u) (fun r _ hr => ?_) (fun _ hle => hle)
      show (m.session.update u).sticky.get? terms.slotId = some (.record r)
      rw [Session.update_sticky]
      exact hr
  | assign other =>
      exact h.frame (hallow.trans h.overrides.symm) (fun _ _ hr => hr) (fun _ hle => hle)

/-- A run under the terms leaves the slot pinned. -/
theorem Pinned.leads (h : Pinned settings terms id m) (hrun : terms.Leads settings judge m m') :
    Pinned settings terms id m' := by
  induction hrun with
  | here => exact h
  | next _ hallow ih => exact ih.after hallow

/-! ## The theorem -/

/-- **Selections stick.**  After a selection on a slot, at any moment of a session, the slot has a
    record of the variant shown, and the record counts at that time.  If the selection wrote the
    record, then after any run under its terms every selection on the slot that succeeds shows the
    same variant. -/
theorem selections_stick (settings : Settings ρ) (judge : Judge σ ρ) (m : Moment σ ρ)
    (slot : Slot ρ) (policy : Policy ρ) (trace : Bool) (now : ρ) {result : SelectionResult ρ}
    {session' : Session ρ} {st' : σ}
    (h : select settings judge slot m.session policy trace now m.state
      = (.ok (result, session'), st')) :
    ∃ r, session'.stickyRecord? slot.id = some r ∧ r.variantId = result.variantId ∧
      session'.isStickyLive slot.id now = true ∧
      ∀ d i, decide settings judge slot m.session policy trace now m.state = (.ok d, st') →
        d.intent = some i →
        ∀ m', Terms.Leads settings judge (.of slot policy m.session r.scope)
            ⟨session', st', now⟩ m' →
          ∀ slot' policy' trace' now', slot'.id = slot.id →
            Terms.Allow (.of slot policy m.session r.scope) m' (.select slot' policy' trace' now') →
            ∀ result' session'' st'',
              select settings judge slot' m'.session policy' trace' now' m'.state
                = (.ok (result', session''), st'') →
              result'.variantId = result.variantId := by
  have hrecord : ∃ r, session'.stickyRecord? slot.id = some r ∧
      r.variantId = result.variantId ∧ r.isLive now = true := by
    obtain ⟨_, -, ⟨-, rfl, -, r, hget, hlive, hshown⟩ | ⟨r, rfl, hvariant, httl, -⟩⟩ :=
      select_cases h
    · exact ⟨r, hget, hshown.symm, hlive⟩
    · exact ⟨r, Session.stickyRecord?_of_get? (m.session.putSticky_get?_self slot.id (.record r)),
        hvariant, StickyRecord.isLive_of_untimed httl now⟩
  obtain ⟨r, hget, hvariant, hlive⟩ := hrecord
  refine ⟨r, hget, hvariant, Session.isStickyLive_of_record hget hlive, ?_⟩
  intro d i hd hi m' hrun slot' policy' trace' now' hslot hallow result' session'' st'' hselect
  obtain ⟨r', hget', hpinned⟩ := pinned_of_select h hd hi
  rw [Session.stickyRecord?_of_get? hget'] at hget
  cases hget
  exact ((hpinned.leads hrun).select hallow.1 (hallow.2 hslot) hselect).1

/-- An override forces `b` at time 5 and has expired at time 20.  After an answer and the end of a
    course, the slot still shows `b`, now from its record. -/
theorem selections_stick_expired :
    let settings : Settings Rat := .default
    let slot : Slot Rat := ⟨"s", [{ id := "a" }, { id := "b" }], none⟩
    let session : Session Rat :=
      { metrics   := Metrics.initial
        overrides := some { forceVariant := [("s", "b")], expiresAt := some 10 } }
    let judge : Judge Unit Rat := fun _ st => (.ok true, st)
    ∃ first later s s',
      select settings judge slot session {} false 5 () = (.ok (first, s), ()) ∧
      s.override? settings "s" 20 = none ∧
      select settings judge slot ((s.recordAnswer 0 false).endScope .course) {} false 20 ()
        = (.ok (later, s'), ()) ∧
      later.variantId = first.variantId := by
  intro settings slot session judge
  let d := Decision.forced settings slot "b" { policyVersion := "dev" }
  let r : StickyRecord Rat :=
    { variantId := "b", time := 5, strength := .strong, reason := some .teacherChoice }
  let s := session.putSticky "s" (.record r)
  let start : Moment Unit Rat := ⟨s, (), 5⟩
  let answered := start.after settings judge (.update (.answer 0 false))
  let ended := answered.after settings judge (.endScope .course)
  have hselect : select settings judge slot session {} false 5 () = (.ok (d.result, s), ()) := rfl
  have hlater : select settings judge slot ended.session {} false 20 ()
      = (.ok ((Decision.retained slot r { policyVersion := "dev" }).result, ended.session), ()) :=
    rfl
  obtain ⟨r', hr', -, -, hkeeps⟩ :=
    selections_stick settings judge ⟨session, (), 0⟩ slot {} false 5 hselect
  cases (show s.stickyRecord? "s" = some r from rfl).symm.trans hr'
  have hrun : Terms.Leads settings judge (.of slot {} session .lesson) start ended :=
    .next (.next .here trivial) (fun h => nomatch h)
  have hallow : Terms.Allow (.of slot {} session .lesson) ended (.select slot {} false 20) :=
    ⟨rfl, fun _ =>
      ⟨rfl, rfl, fun _ hfirst => congrArg (Option.map Variant.id) hfirst, fun _ h => h⟩⟩
  exact ⟨d.result, _, s, _, hselect, rfl, hlater,
    hkeeps d _ rfl rfl ended hrun slot {} false 20 rfl hallow _ _ _ hlater⟩

end LessonVariants
