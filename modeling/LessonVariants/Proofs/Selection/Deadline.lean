import LessonVariants.Proofs.Selection.Precedence
import LessonVariants.Proofs.Selection.Stickiness

/-! # The deadline of a record

    A record with a lifetime has a deadline, and nothing that happens to the slot moves it: a
    selection up to the deadline shows the recorded variant and writes nothing.  The first selection
    that succeeds past the deadline ranks the variants anew and writes a record without a lifetime,
    and that one stays (`deadline_is_fixed`).

    A run is a chain of allowed actions (`Runs`).  What carries it is that only a selection past the
    deadline can replace the record (`Undisturbed.keeps`), and that time does not run back. -/

namespace LessonVariants

variable {ρ σ : Type} [WireScalar ρ]

/-! ## Records and their deadlines -/

/-- A record with a lifetime other than zero counts just as long as its deadline has not passed. -/
theorem StickyRecord.isLive_timed {r : StickyRecord ρ} {ttl : ρ} (httl : r.ttlMs = some ttl)
    (hnonzero : Scalar.isZero ttl = false) (now : ρ) :
    r.isLive now = !Scalar.lt (r.time + ttl) now := by
  unfold isLive
  rw [httl]
  dsimp only
  rw [hnonzero, Bool.false_or]

/-- A selection on an allowed slot without an override shows the record that counts, and leaves the
    session and the judge alone. -/
theorem Allowed.select_retained {settings : Settings ρ} {judge : Judge σ ρ} {slot : Slot ρ}
    {session : Session ρ} {policy : Policy ρ} {trace : Bool} {now : ρ} {st : σ}
    {r : StickyRecord ρ} (h : Allowed slot session policy)
    (hoverride : session.override? settings slot.id now = none)
    (hrecord : session.stickyRecord? slot.id = some r) (hlive : r.isLive now = true) :
    select settings judge slot session policy trace now st =
      (.ok ((Decision.retained slot r { policyVersion := policy.version }).result, session), st) := by
  unfold select
  rw [h.decide_retained hoverride hrecord hlive]
  rfl

/-- An allowed slot without an override whose record does not count is ranked. -/
theorem Allowed.route_ranked {settings : Settings ρ} {slot : Slot ρ} {session : Session ρ}
    {policy : Policy ρ} {now : ρ} {r : StickyRecord ρ} (h : Allowed slot session policy)
    (hoverride : session.override? settings slot.id now = none)
    (hrecord : session.stickyRecord? slot.id = some r) (hdead : r.isLive now = false) :
    ∃ first, route settings slot session policy now = .ranked first := by
  obtain ⟨first, rest, hvariants⟩ := List.exists_cons_of_ne_nil h.variants
  have hfilter : (session.stickyRecord? slot.id).filter (·.isLive now) = none := by
    rw [hrecord]
    exact if_neg (Bool.eq_false_iff.mp hdead)
  refine ⟨first, ?_⟩
  unfold route
  simp only [hvariants, h.verdict, hoverride, hfilter]

/-! ## Runs -/

/-- The moments that a run comes to, if every action is allowed at the moment at which it happens. -/
inductive Runs (settings : Settings ρ) (judge : Judge σ ρ) (allow : Moment σ ρ → Action ρ → Prop)
    (m : Moment σ ρ) : Moment σ ρ → Prop
  | here : Runs settings judge allow m m
  | next {m' : Moment σ ρ} {a : Action ρ} : Runs settings judge allow m m' → allow m' a →
      Runs settings judge allow m (m'.after settings judge a)

/-- What may happen while a slot is left to itself.  Time does not run back; the slot is selected only
    where it is allowed and no override is in force; and its record is neither set from outside nor
    forgotten with its scope. -/
def Undisturbed (settings : Settings ρ) (slotId : String) (m : Moment σ ρ) : Action ρ → Prop
  | .select slot policy _ now =>
      Scalar.le m.time now = true ∧ (slot.id = slotId →
        Allowed slot m.session policy ∧ m.session.override? settings slotId now = none)
  | .setSticky other _ => other ≠ slotId
  | .endScope scope    => ∀ e, m.session.sticky.get? slotId = some e → e.hasScope scope = false
  | .update _          => True
  | .assign _          => True

/-- Whether an action is a selection of the slot at a time of a kind, and one that succeeds. -/
def Succeeds (settings : Settings ρ) (judge : Judge σ ρ) (slotId : String) (isTime : ρ → Prop)
    (m : Moment σ ρ) : Action ρ → Prop
  | .select slot policy trace now =>
      slot.id = slotId ∧ isTime now ∧ ∃ result session st,
        select settings judge slot m.session policy trace now m.state = (.ok (result, session), st)
  | _ => False

/-- What may happen while no selection of the slot at a time of a kind succeeds. -/
def Unrenewed (settings : Settings ρ) (judge : Judge σ ρ) (slotId : String) (isTime : ρ → Prop)
    (m : Moment σ ρ) (a : Action ρ) : Prop :=
  Undisturbed settings slotId m a ∧ ¬Succeeds settings judge slotId isTime m a

/-- A selection that shows a variant from the slot's record.  The session and the judge stay as they
    are. -/
def Reuses (settings : Settings ρ) (judge : Judge σ ρ) (slot : Slot ρ) (m : Moment σ ρ)
    (policy : Policy ρ) (trace : Bool) (now : ρ) (id : String) : Prop :=
  ∃ result, select settings judge slot m.session policy trace now m.state
      = (.ok (result, m.session), m.state) ∧
    result.variantId = id ∧ result.why.stickyUsed = some true

variable {settings : Settings ρ} {judge : Judge σ ρ} {slotId : String} {m m' : Moment σ ρ}
  {a : Action ρ} {r : StickyRecord ρ} {deadline : ρ} {slot : Slot ρ} {policy : Policy ρ}
  {trace : Bool} {now : ρ}

theorem Succeeds.imp {isTime isTime' : ρ → Prop} (h : Succeeds settings judge slotId isTime m a)
    (himp : ∀ now, isTime now → isTime' now) : Succeeds settings judge slotId isTime' m a := by
  cases a with
  | select slot policy trace now =>
      obtain ⟨hslot, hnow, hselect⟩ := h
      exact ⟨hslot, himp now hnow, hselect⟩
  | _ => exact h

/-- No selection succeeds at no time. -/
theorem Succeeds.never (h : Succeeds settings judge slotId (fun _ => False) m a) : False := by
  cases a with
  | select slot policy trace now => exact h.2.1
  | _ => exact h

/-- Reading the record of a slot after an entry was put elsewhere. -/
theorem Session.stickyRecord?_putSticky {s : Session ρ} {other : String} (h : other ≠ slotId)
    (e : StickyEntry ρ) : (s.putSticky other e).stickyRecord? slotId = s.stickyRecord? slotId := by
  rw [stickyRecord?, putSticky_get?, if_neg h.symm, stickyRecord?]

/-- An entry that is not of a scope outlasts the end of that scope. -/
theorem Session.stickyRecord?_endScope {s : Session ρ} {scope : Scope}
    (h : ∀ e, s.sticky.get? slotId = some e → e.hasScope scope = false)
    (hr : s.stickyRecord? slotId = some r) :
    (s.endScope scope).stickyRecord? slotId = some r := by
  obtain ⟨e, he, hread⟩ := Option.bind_eq_some_iff.mp hr
  have hkept : (!e.hasScope scope) = true := by rw [h e he]; rfl
  have hget : (s.endScope scope).sticky.get? slotId = some e :=
    Keyed.get?_keep (p := fun _ (e : StickyEntry ρ) => !e.hasScope scope) he hkept
  rw [stickyRecord?, hget]
  exact hread

/-- **Only a selection that the record does not survive can replace it.**  Every other action leaves
    the slot with the record that it has. -/
theorem Undisturbed.keeps (h : Undisturbed settings slotId m a)
    (hr : m.session.stickyRecord? slotId = some r)
    (hdead : ¬Succeeds settings judge slotId (fun now => r.isLive now = false) m a) :
    (m.after settings judge a).session.stickyRecord? slotId = some r := by
  cases a with
  | select slot policy trace now =>
      cases hselect : select settings judge slot m.session policy trace now m.state with
      | mk outcome st =>
          rw [Moment.after, hselect]
          cases outcome with
          | error e => exact hr
          | ok shown =>
              obtain ⟨result, session'⟩ := shown
              by_cases hslot : slot.id = slotId
              · subst hslot
                obtain ⟨-, hcalm⟩ := h
                obtain ⟨hallowed, hoverride⟩ := hcalm rfl
                have hlive : r.isLive now = true := Bool.not_eq_false _ |>.mp fun hnow =>
                  hdead ⟨rfl, hnow, result, session', st, hselect⟩
                rw [hallowed.select_retained hoverride hr hlive] at hselect
                cases hselect
                exact hr
              · obtain ⟨_, -, ⟨-, rfl, -⟩ | ⟨r', rfl, -⟩⟩ := select_cases hselect
                · exact hr
                · -- another slot's record is written
                  show (m.session.putSticky slot.id (.record r')).stickyRecord? slotId = some r
                  rw [Session.stickyRecord?_putSticky hslot]
                  exact hr
  | setSticky other e =>
      show (m.session.putSticky other e).stickyRecord? slotId = some r
      rw [Session.stickyRecord?_putSticky h]
      exact hr
  | endScope scope => exact Session.stickyRecord?_endScope h hr
  | update u =>
      show (m.session.update u).stickyRecord? slotId = some r
      rw [Session.stickyRecord?, Session.update_sticky]
      exact hr
  | assign other => exact hr

/-- What no later time comes before, no later moment comes before. -/
theorem Undisturbed.late (h : Undisturbed settings slotId m a)
    (hlate : Scalar.lt deadline m.time = true) :
    Scalar.lt deadline (m.after settings judge a).time = true := by
  cases a with
  | select slot policy trace now =>
      have hnow : Scalar.lt deadline now = true := Scalar.lt_of_lt_of_le hlate h.1
      unfold Moment.after
      dsimp only
      split
      · exact hnow
      · exact hnow
  | _ => exact hlate

/-- A selection past a deadline leads past it. -/
theorem Succeeds.late
    (h : Succeeds settings judge slotId (fun now => Scalar.lt deadline now = true) m a) :
    Scalar.lt deadline (m.after settings judge a).time = true := by
  cases a with
  | select slot policy trace now =>
      obtain ⟨-, hlate, _, _, _, hselect⟩ := h
      rw [Moment.after, hselect]
      exact hlate
  | _ => exact h.elim

/-- A run without a success that the record does not survive leaves the slot with its record. -/
theorem Runs.keeps
    (hrun : Runs settings judge
      (Unrenewed settings judge slotId fun now => r.isLive now = false) m m')
    (hr : m.session.stickyRecord? slotId = some r) :
    m'.session.stickyRecord? slotId = some r := by
  induction hrun with
  | here => exact hr
  | next _ hallow ih => exact hallow.1.keeps ih hallow.2

/-- A record that always counts outlasts every run. -/
theorem Runs.keeps_untimed (hrun : Runs settings judge (Undisturbed settings slotId) m m')
    (hr : m.session.stickyRecord? slotId = some r) (huntimed : r.ttlMs = none) :
    m'.session.stickyRecord? slotId = some r := by
  induction hrun with
  | here => exact hr
  | next _ hallow ih =>
      refine hallow.keeps ih fun hdead => Succeeds.never (hdead.imp fun now hnow => ?_)
      exact nomatch hnow.symm.trans (StickyRecord.isLive_of_untimed huntimed now)

/-- Up to its deadline a record is there: if a run has replaced it, the deadline has passed. -/
theorem Runs.keeps_or_late (hrun : Runs settings judge (Undisturbed settings slotId) m m')
    (hr : m.session.stickyRecord? slotId = some r)
    (hlive : ∀ now, r.isLive now = false → Scalar.lt deadline now = true) :
    m'.session.stickyRecord? slotId = some r ∨ Scalar.lt deadline m'.time = true := by
  induction hrun with
  | here => exact Or.inl hr
  | @next m' a _ hallow ih =>
      rcases ih with hkept | hlate
      · by_cases hdead : Succeeds settings judge slotId (fun now => r.isLive now = false) m' a
        · exact Or.inr (hdead.imp hlive).late
        · exact Or.inl (hallow.keeps hkept hdead)
      · exact Or.inr (hallow.late hlate)

theorem Runs.imp {allow allow' : Moment σ ρ → Action ρ → Prop}
    (h : Runs settings judge allow m m') (himp : ∀ m a, allow m a → allow' m a) :
    Runs settings judge allow' m m' := by
  induction h with
  | here => exact .here
  | next _ hallow ih => exact .next ih (himp _ _ hallow)

/-! ## The theorem -/

/-- A selection at a time at which the record counts reuses it. -/
theorem Undisturbed.reuses
    (h : Undisturbed settings slotId m (.select slot policy trace now)) (hslot : slot.id = slotId)
    (hr : m.session.stickyRecord? slotId = some r) (hlive : r.isLive now = true) :
    Reuses settings judge slot m policy trace now r.variantId := by
  subst hslot
  obtain ⟨hallowed, hoverride⟩ := h.2 rfl
  exact ⟨_, hallowed.select_retained hoverride hr hlive, rfl, rfl⟩

/-- **The deadline of a record is fixed.**  Take a slot with a record whose lifetime is not zero, and
    a run that leaves the slot to itself.

    A selection of the slot up to the deadline shows the recorded variant from the record, which is
    as it was at first.  As long as no selection past the deadline has succeeded, the first one to do
    so ranks the variants; it writes a record without a lifetime that bears its time, which in exact
    arithmetic is the time itself.  From then on every selection of the slot shows the variant that
    this one has shown, from the new record. -/
theorem deadline_is_fixed (settings : Settings ρ) (judge : Judge σ ρ) (slotId : String)
    (m : Moment σ ρ) {r : StickyRecord ρ} {ttl : ρ}
    (hr : m.session.stickyRecord? slotId = some r) (httl : r.ttlMs = some ttl)
    (hnonzero : Scalar.isZero ttl = false) :
    (∀ m', Runs settings judge (Undisturbed settings slotId) m m' →
      ∀ slot policy trace now, slot.id = slotId →
        Undisturbed settings slotId m' (.select slot policy trace now) →
        Scalar.le now (r.time + ttl) = true →
        m'.session.stickyRecord? slotId = some r ∧
          Reuses settings judge slot m' policy trace now r.variantId) ∧
    ∀ m', Runs settings judge
        (Unrenewed settings judge slotId fun now => Scalar.lt (r.time + ttl) now = true) m m' →
      ∀ slot policy trace now result session' st', slot.id = slotId →
        Undisturbed settings slotId m' (.select slot policy trace now) →
        Scalar.lt (r.time + ttl) now = true →
        select settings judge slot m'.session policy trace now m'.state
          = (.ok (result, session'), st') →
        (∃ first, route settings slot m'.session policy now = .ranked first) ∧
        result.why.stickyUsed = none ∧
        (∃ r', session' = m'.session.putSticky slotId (.record r') ∧
          r'.variantId = result.variantId ∧ r'.ttlMs = none ∧
          WireScalar.toReal? now = some r'.time) ∧
        ∀ m'', Runs settings judge (Undisturbed settings slotId) ⟨session', st', now⟩ m'' →
          ∀ slot' policy' trace' now', slot'.id = slotId →
            Undisturbed settings slotId m'' (.select slot' policy' trace' now') →
            Reuses settings judge slot' m'' policy' trace' now' result.variantId := by
  have hdead : ∀ now, r.isLive now = false ↔ Scalar.lt (r.time + ttl) now = true := by
    intro now
    rw [StickyRecord.isLive_timed httl hnonzero, Bool.not_eq_false']
  constructor
  · intro m' hrun slot policy trace now hslot hcalm hle
    have hearly : Scalar.lt (r.time + ttl) now = false := Scalar.not_lt_of_le hle
    have hlive : r.isLive now = true := by
      rw [← Bool.not_eq_false, hdead, hearly]
      exact Bool.false_ne_true
    have hkept : m'.session.stickyRecord? slotId = some r := by
      rcases hrun.keeps_or_late hr (fun now => (hdead now).mp) with hkept | hlate
      · exact hkept
      · -- the moment would lie past the deadline, and the selection not
        exact nomatch hearly.symm.trans (Scalar.lt_of_lt_of_le hlate hcalm.1)
    exact ⟨hkept, hcalm.reuses hslot hkept hlive⟩
  · intro m' hrun slot policy trace now result session' st' hslot hcalm hlate hselect
    subst hslot
    have hkept : m'.session.stickyRecord? slot.id = some r := by
      refine Runs.keeps (hrun.imp fun _ _ h => ⟨h.1, fun hs => h.2 ?_⟩) hr
      exact hs.imp fun now => (hdead now).mp
    obtain ⟨hallowed, hoverride⟩ := hcalm.2 rfl
    have hranked := hallowed.route_ranked hoverride hkept ((hdead now).mpr hlate)
    obtain ⟨d, hd, -, ⟨hnone, -⟩ | ⟨i, r', -, hvariant, hused, hrecord, rfl⟩⟩ :=
      select_writes hselect
    · -- a decision from the slot's record would need a record that counts
      obtain ⟨r₁, hr₁, hlive⟩ := ((decide_intent (congrArg Prod.fst hd)).mp hnone).record
      cases hkept.symm.trans hr₁
      exact nomatch hlive.symm.trans ((hdead now).mpr hlate)
    · obtain ⟨t, ht, hr'⟩ := record_eq_ok.mp hrecord
      have huntimed : r'.ttlMs = none := by rw [hr']
      have hshown : r'.variantId = result.variantId := by rw [hr']; exact hvariant
      have hstamp : WireScalar.toReal? now = some r'.time := by rw [hr']; exact ht
      refine ⟨hranked, hused, ⟨r', rfl, hshown, huntimed, hstamp⟩, ?_⟩
      intro m'' hrun' slot' policy' trace' now' hslot' hcalm'
      have hnew : (m'.session.putSticky slot.id (.record r')).stickyRecord? slot.id = some r' :=
        Session.stickyRecord?_of_get? (m'.session.putSticky_get?_self slot.id (.record r'))
      rw [← hshown]
      exact hcalm'.reuses hslot' (hrun'.keeps_untimed hnew huntimed)
        (StickyRecord.isLive_of_untimed huntimed now')

/-- A record of `b`, which the slot has no more, with the deadline 10.  At 10 the slot still shows `b`;
    at 11 it shows `a`, which is remembered and stays. -/
theorem deadline_is_fixed_boundary :
    let settings : Settings Rat := .default
    let slot : Slot Rat := ⟨"s", [{ id := "a" }], none⟩
    let record : StickyRecord Rat := { variantId := "b", time := 1, ttlMs := some 9 }
    let renewed : StickyRecord Rat := { variantId := "a", time := 11, reason := some .firstPick }
    let session : Session Rat :=
      { metrics := Metrics.initial, sticky := [("s", .record record)] }
    let judge : Judge Unit Rat := fun _ st => (.ok true, st)
    session.stickyRecord? "s" = some record ∧ Scalar.isZero (9 : Rat) = false ∧
      Reuses settings judge slot ⟨session, (), 0⟩ {} true 10 "b" ∧
      select settings judge slot session {} false 11 ()
        = (.ok (⟨"s", "a", { policyVersion := "dev" }⟩, session.putSticky "s" (.record renewed)),
            ()) ∧
      Reuses settings judge slot ⟨session.putSticky "s" (.record renewed), (), 11⟩ {} false 100
        "a" := by
  intro settings slot record renewed session judge
  let start : Moment Unit Rat := ⟨session, (), 0⟩
  have hnonzero : Scalar.isZero (9 : Rat) = false := by decide +kernel
  have hallowed : ∀ s, Allowed slot s {} := fun _ => ⟨List.cons_ne_nil _ _, rfl⟩
  have hview : Undisturbed settings "s" start (.select slot {} true 10) :=
    ⟨by decide +kernel, fun _ => ⟨hallowed session, rfl⟩⟩
  obtain ⟨hbefore, hafter⟩ := deadline_is_fixed settings judge "s" start rfl rfl hnonzero
  obtain ⟨-, hreuses⟩ := hbefore start .here slot {} true 10 rfl hview (by decide +kernel)
  -- the view at 10 leaves the session as it was
  have hviewed : start.after settings judge (.select slot {} true 10) = ⟨session, (), 10⟩ := by
    obtain ⟨result, hselect, -⟩ := hreuses
    rw [Moment.after, hselect]
  have hunrenewed : Runs settings judge
      (Unrenewed settings judge "s" fun now => Scalar.lt ((1 : Rat) + 9) now = true)
      start ⟨session, (), 10⟩ := by
    rw [← hviewed]
    refine .next .here ⟨hview, fun h => ?_⟩
    exact absurd h.2.1 (by decide +kernel)
  have hselect : select settings judge slot session {} false 11 ()
      = (.ok (⟨"s", "a", { policyVersion := "dev" }⟩, session.putSticky "s" (.record renewed)),
          ()) := by
    have hdead : record.isLive 11 = false := by decide +kernel
    have hranked : ∃ first, route settings slot session {} 11 = .ranked first :=
      (hallowed session).route_ranked rfl rfl hdead
    obtain ⟨first, hroute⟩ := hranked
    cases (Route.applies hroute).1
    unfold select
    rw [decide_eq, hroute]
    rfl
  obtain ⟨-, -, -, hlater⟩ := hafter _ hunrenewed slot {} false 11 _ _ _ rfl
    ⟨by decide +kernel, fun _ => ⟨hallowed session, rfl⟩⟩ (by decide +kernel) hselect
  exact ⟨rfl, hnonzero, hreuses, hselect, hlater _ .here slot {} false 100 rfl
    ⟨by decide +kernel, fun _ => ⟨hallowed _, rfl⟩⟩⟩

end LessonVariants
