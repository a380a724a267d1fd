import LessonVariants.Proofs.Keyed
import LessonVariants.Proofs.Selection.Routes

/-! # Selecting in place

    `select` returns a session.  A caller has one session, which a selection reads and writes while it
    runs, and which stays as it is at the moment of a failure.  `selectInPlace` is this program: each
    step sees the session as the steps before have left it, and the judge may fail in the midst of the
    variants.

    Every step has a lemma that says how it ends.  All but the last one leave the session alone,
    whether they fail or not, and the last one writes one record or fails before it writes.  So the
    program comes to what `select` comes to (`selectInPlace_run`), a failure leaves the session as it
    was before, and a success changes one entry at most (`selection_is_atomic`). -/

namespace LessonVariants

variable {α ε ρ σ : Type}

/-- What a selection works on: the session, and what the judge keeps. -/
structure Workplace (σ ρ : Type) where
  session : Session ρ
  judging : σ

/-- A program that works in place.  A failure leaves the workplace as it is at that moment. -/
abbrev InPlace (σ ρ : Type) := EStateM (SelectionError ρ) (Workplace σ ρ)

/-- The end of a program that leaves the session alone. -/
def Session.endsWith (session : Session ρ) (failure : ε → SelectionError ρ) :
    Except ε α × σ → EStateM.Result (SelectionError ρ) (Workplace σ ρ) α
  | (.ok a, st)    => .ok a ⟨session, st⟩
  | (.error e, st) => .error (failure e) ⟨session, st⟩

namespace InPlace

variable {settings : Settings ρ} {judge : Judge σ ρ} {slot : Slot ρ} {session : Session ρ}
  {policy : Policy ρ} {trace : Bool} {now : ρ}

/-! ## Asking -/

/-- Asks the policy about a slot. -/
def askPolicy (policy : Policy ρ) (slot : Slot ρ) : InPlace σ ρ Bool := do
  match policy.verdict slot (← get).session with
  | .ok allowed => pure allowed
  | .error f    => throw (.policy f)

theorem askPolicy_run (st : σ) :
    (askPolicy policy slot).run ⟨session, st⟩
      = session.endsWith .policy (policy.verdict slot session, st) := by
  unfold askPolicy
  rw [EStateM.run_bind]
  dsimp only [EStateM.run_get]
  cases policy.verdict slot session with
  | ok allowed => rfl
  | error f => rfl

/-- Asks the judge about a variant, on the session as it is now. -/
def askJudge (judge : Judge σ ρ) (slotId : String) (v : Variant ρ) : InPlace σ ρ Bool := do
  let here ← get
  let (verdict, judging) := judge ⟨here.session, slotId, v⟩ here.judging
  modify fun w => { w with judging := judging }
  match verdict with
  | .ok passed => pure passed
  | .error f   => throw (.guard f)

theorem askJudge_run (v : Variant ρ) (st : σ) :
    (askJudge judge slot.id v).run ⟨session, st⟩
      = session.endsWith .guard (judge ⟨session, slot.id, v⟩ st) := by
  unfold askJudge
  rw [EStateM.run_bind]
  dsimp only [EStateM.run_get]
  obtain ⟨verdict, st'⟩ := judge ⟨session, slot.id, v⟩ st
  cases verdict with
  | ok passed => rfl
  | error f => rfl

/-- Asks the judge about one variant after the other. -/
def askAll (judge : Judge σ ρ) (slotId : String) :
    List (Variant ρ) → InPlace σ ρ (List (Variant ρ × Bool))
  | []      => pure []
  | v :: vs => do
      let passed ← askJudge judge slotId v
      let rest ← askAll judge slotId vs
      pure ((v, passed) :: rest)

/-- All variants are judged on one session, and a failure on the way leaves that session. -/
theorem askAll_run (vs : List (Variant ρ)) (st : σ) :
    (askAll judge slot.id vs).run ⟨session, st⟩
      = session.endsWith .guard (judgeAll judge session slot.id vs st) := by
  induction vs generalizing st with
  | nil => rfl
  | cons v vs ih =>
      rw [askAll, judgeAll, EStateM.run_bind, askJudge_run]
      obtain ⟨verdict, st'⟩ := judge ⟨session, slot.id, v⟩ st
      cases verdict with
      | error f => rfl
      | ok passed =>
          dsimp only [Session.endsWith]
          rw [EStateM.run_bind, ih]
          obtain ⟨rest, st''⟩ := judgeAll judge session slot.id vs st'
          cases rest with
          | error f => rfl
          | ok rest => rfl

variable [WireScalar ρ]

/-! ## Choosing -/

/-- Ranks the variants that suit the session and pass. -/
def rank (settings : Settings ρ) (judge : Judge σ ρ) (slot : Slot ρ) (first : Variant ρ)
    (why : Rationale ρ) (trace : Bool) : InPlace σ ρ (Decision ρ) := do
  let before ← get
  let verdicts ← askAll judge slot.id (slot.variants.filter (·.suits before.session))
  let after ← get
  pure (.ofVerdicts settings slot first after.session why trace verdicts)

theorem rank_run (first : Variant ρ) (why : Rationale ρ) (st : σ) :
    (rank settings judge slot first why trace).run ⟨session, st⟩
      = session.endsWith id (rankedDecision settings judge slot first session why trace st) := by
  unfold rank rankedDecision
  rw [EStateM.run_bind]
  dsimp only [EStateM.run_get]
  rw [EStateM.run_bind, askAll_run]
  obtain ⟨verdicts, st'⟩ :=
    judgeAll judge session slot.id (slot.variants.filter (·.suits session)) st
  cases verdicts with
  | error f => rfl
  | ok verdicts => rfl

/-- Runs the steps up to the first one that decides. -/
def choose (settings : Settings ρ) (judge : Judge σ ρ) (slot : Slot ρ) (policy : Policy ρ)
    (trace : Bool) (now : ρ) : InPlace σ ρ (Decision ρ) := do
  match slot.variants with
  | []         => throw (.noVariants slot.id)
  | first :: _ =>
      let why : Rationale ρ := { policyVersion := policy.version }
      if ← askPolicy policy slot then
        match (← get).session.override? settings slot.id now with
        | some id => pure (.forced settings slot id why)
        | none    =>
            match ((← get).session.stickyRecord? slot.id).filter (·.isLive now) with
            | some r => pure (.retained slot r why)
            | none   => rank settings judge slot first why trace
      else
        match slot.denied settings first why with
        | .ok d    => pure d
        | .error e => throw e

/-- **A choice in place comes to the decision**, and leaves the session alone, also where it fails. -/
theorem choose_run (st : σ) :
    (choose settings judge slot policy trace now).run ⟨session, st⟩
      = session.endsWith id (decide settings judge slot session policy trace now st) := by
  rw [decide_eq]
  unfold choose route
  cases slot.variants with
  | nil => rfl
  | cons first rest =>
      dsimp only
      rw [EStateM.run_bind, askPolicy_run]
      cases policy.verdict slot session with
      | error f => rfl
      | ok allowed =>
          cases allowed with
          | false =>
              dsimp only [Session.endsWith]
              rw [if_neg Bool.false_ne_true]
              cases slot.denied settings first { policyVersion := policy.version } with
              | error e => rfl
              | ok d => rfl
          | true =>
              dsimp only [Session.endsWith]
              rw [if_pos rfl, EStateM.run_bind]
              dsimp only [EStateM.run_get]
              cases session.override? settings slot.id now with
              | some id => rfl
              | none =>
                  dsimp only
                  rw [EStateM.run_bind]
                  dsimp only [EStateM.run_get]
                  cases (session.stickyRecord? slot.id).filter (·.isLive now) with
                  | some r => rfl
                  | none => exact rank_run first _ st

/-! ## Remembering -/

/-- Writes the record of a choice, once there is one. -/
def remember (i : StickyIntent) (now : ρ) : InPlace σ ρ Unit := do
  match i.record now with
  | .ok r      => modify fun w => { w with session := w.session.putSticky i.slotId (.record r) }
  | .faulty is => throw (.record is)

/-- A choice is committed, or nothing is written. -/
theorem remember_run (i : StickyIntent) (st : σ) :
    (remember i now).run ⟨session, st⟩ =
      match session.commit i now with
      | .ok session' => .ok () ⟨session', st⟩
      | .faulty is   => .error (.record is) ⟨session, st⟩ := by
  unfold remember Session.commit
  cases i.record now with
  | ok r => rfl
  | faulty is => rfl

end InPlace

/-! ## Selecting -/

variable [WireScalar ρ]

/-- Chooses a variant and remembers it, if it is a new choice. -/
def selectInPlace (settings : Settings ρ) (judge : Judge σ ρ) (slot : Slot ρ) (policy : Policy ρ)
    (trace : Bool) (now : ρ) : InPlace σ ρ (SelectionResult ρ) := do
  let d ← InPlace.choose settings judge slot policy trace now
  match d.intent with
  | none   => pure ()
  | some i => InPlace.remember i now
  pure d.result

/-- **A selection in place comes to the selection.**  A success leaves the session that is returned, and
    a failure the one that was there before. -/
theorem selectInPlace_run (settings : Settings ρ) (judge : Judge σ ρ) (slot : Slot ρ)
    (session : Session ρ) (policy : Policy ρ) (trace : Bool) (now : ρ) (st : σ) :
    (selectInPlace settings judge slot policy trace now).run ⟨session, st⟩ =
      match select settings judge slot session policy trace now st with
      | (.ok (result, session'), st') => .ok result ⟨session', st'⟩
      | (.error e, st')               => .error e ⟨session, st'⟩ := by
  unfold selectInPlace select
  rw [EStateM.run_bind, InPlace.choose_run]
  obtain ⟨outcome, st'⟩ := decide settings judge slot session policy trace now st
  cases outcome with
  | error e => rfl
  | ok d =>
      dsimp only [Session.endsWith]
      cases d.intent with
      | none => rfl
      | some i =>
          dsimp only
          rw [EStateM.run_bind, InPlace.remember_run]
          cases session.commit i now with
          | ok session' => rfl
          | faulty is => rfl

/-! ## The theorem -/

/-- A session that differs from another one in what it holds for one slot, and in nothing else: the
    other slots have the same entries in the same order. -/
structure DiffersAt (slotId : String) (session session' : Session ρ) : Prop where
  fields : session' = { session with sticky := session'.sticky }
  others : session'.sticky.keep (fun id _ => id != slotId)
    = session.sticky.keep (fun id _ => id != slotId)

omit [WireScalar ρ] in
/-- An entry is put in the place of its slot. -/
theorem Session.putSticky_differsAt (session : Session ρ) (slotId : String) (e : StickyEntry ρ) :
    DiffersAt slotId session (session.putSticky slotId e) where
  fields := rfl
  others := Keyed.keep_insert (fun _ => bne_self_eq_false slotId) session.sticky e

/-- **A selection is atomic and touches one entry.**  Run in place, it comes to what `select` comes to.
    If it fails, the session is as it was before.  If it succeeds, it has either used the slot's record
    and left the session alone, or it has used none and put a record in the slot's place: of the
    variant that it shows, stamped with the time as a real number, with the reason, the strength and
    the scope of what was to be remembered, and without a lifetime. -/
theorem selection_is_atomic (settings : Settings ρ) (judge : Judge σ ρ) (slot : Slot ρ)
    (session : Session ρ) (policy : Policy ρ) (trace : Bool) (now : ρ) (st : σ) :
    match (selectInPlace settings judge slot policy trace now).run ⟨session, st⟩ with
    | .error e after =>
        select settings judge slot session policy trace now st = (.error e, after.judging) ∧
          after.session = session
    | .ok result after =>
        select settings judge slot session policy trace now st
            = (.ok (result, after.session), after.judging) ∧
          ∃ d, decide settings judge slot session policy trace now st = (.ok d, after.judging) ∧
            d.result = result ∧
            ((d.intent = none ∧ result.why.stickyUsed = some true ∧ after.session = session) ∨
              ∃ i t, d.intent = some i ∧ result.why.stickyUsed = none ∧
                WireScalar.toReal? now = some t ∧ DiffersAt slot.id session after.session ∧
                after.session.sticky.get? slot.id = some (.record
                  { variantId := result.variantId, time := t, scope := i.scope,
                    ttlMs := none, strength := i.strength, reason := some i.reason })) := by
  rw [selectInPlace_run]
  cases hselect : select settings judge slot session policy trace now st with
  | mk outcome st' =>
      cases outcome with
      | error e => exact ⟨rfl, rfl⟩
      | ok selected =>
          obtain ⟨result, session'⟩ := selected
          obtain ⟨d, hdecide, hresult, hwrites⟩ := select_writes hselect
          refine ⟨rfl, d, hdecide, hresult, hwrites.imp_right ?_⟩
          rintro ⟨i, r, hintent, hvariant, hunused, hrecord, rfl⟩
          obtain ⟨t, ht, rfl⟩ := record_eq_ok.mp hrecord
          refine ⟨i, t, hintent, hunused, ht, session.putSticky_differsAt slot.id _, ?_⟩
          rw [← hvariant, Session.putSticky, Keyed.get?_insert, if_pos rfl]

/-- The second test fails after the first guard was compiled and has passed, and the session is as it was.
    Without the second variant the first one is shown, and its record follows that of the other
    slot. -/
theorem selection_is_atomic_midway :
    let a : Variant Rat := { id := "a", guard := some (.text "true") }
    let b : Variant Rat := { id := "b", guard := some (.test fun _ _ => .error ⟨"boom"⟩) }
    let session : Session Rat :=
      { metrics := Metrics.initial, sticky := [("t", .record { variantId := "c", time := 0 })] }
    let judge : Judge GuardCache Rat := GuardCache.judge ⟨970, 970⟩
    (∃ e after,
      (selectInPlace .default judge ⟨"s", [a, b], none⟩ {} true 5).run ⟨session, {}⟩
        = .error e after ∧ after.judging.entries.keys = ["true"] ∧ after.session = session) ∧
    ∃ result after,
      (selectInPlace .default judge ⟨"s", [a], none⟩ {} true 5).run ⟨session, {}⟩
        = .ok result after ∧ result.variantId = "a" ∧ after.session.sticky.keys = ["t", "s"] ∧
      DiffersAt "s" session after.session := by
  intro a b session judge
  have hfails :=
    selection_is_atomic .default judge ⟨"s", [a, b], none⟩ session {} true 5 {}
  have hshows := selection_is_atomic .default judge ⟨"s", [a], none⟩ session {} true 5 {}
  have hfail : (selectInPlace .default judge ⟨"s", [a, b], none⟩ {} true 5).run
    ⟨session, {}⟩ = .error _ _ := rfl
  have hshow : (selectInPlace .default judge ⟨"s", [a], none⟩ {} true 5).run
    ⟨session, {}⟩ = .ok _ _ := rfl
  rw [hfail] at hfails
  rw [hshow] at hshows
  obtain ⟨-, d, -, -, ⟨-, hused, -⟩ | ⟨i, t, -, -, -, hdiffers, -⟩⟩ := hshows
  · exact nomatch hused
  · exact ⟨⟨_, _, hfail, rfl, hfails.2⟩, _, _, hshow, rfl, rfl, hdiffers⟩

end LessonVariants
