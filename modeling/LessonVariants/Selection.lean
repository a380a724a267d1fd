import LessonVariants.Guard.Cache
import LessonVariants.Ranking
import LessonVariants.Score
import LessonVariants.Settings.Basic
import LessonVariants.Sticky

/-! # Selecting variants

    A slot resolves to one variant.  The steps run in order, and the first that decides ends the
    decision: the policy's verdict, an override, a remembered choice, and last the ranking of the
    variants that suit the session by their labels and pass their guards.  Without a survivor the
    fallback is chosen, or else the first variant.

    `decide` leaves the session alone and returns, beside the result, the record to be remembered;
    `commit` writes it; `select` does both. -/

namespace LessonVariants

/-- A choice to be remembered. -/
structure StickyIntent where
  slotId    : String
  variantId : String
  reason    : Reason
  strength  : Strength
  scope     : Scope
  deriving DecidableEq, Repr

/-- The outcome of a decision: the result, and the choice to be remembered if it is a new one. -/
structure Decision (ρ : Type) where
  result : SelectionResult ρ
  intent : Option StickyIntent

/-- Why a selection failed. -/
inductive SelectionError (ρ : Type) where
  | noVariants (slotId : String)
  | deniedWithoutFallback (slotId : String)
  | guard (f : GuardFailure ρ)
  | policy (f : CallerFailure)
  | record (issues : List Issue)

/-- Judges the guard of an activation's variant; the state is what the judge keeps between calls. -/
abbrev Judge (σ ρ : Type) := Activation ρ → σ → Except (GuardFailure ρ) Bool × σ

variable {ρ σ : Type} [WireScalar ρ]

/-- The verdicts of a judge on variants, in order, up to the first failure. -/
def judgeAll (judge : Judge σ ρ) (session : Session ρ) (slotId : String) :
    List (Variant ρ) → σ → Except (GuardFailure ρ) (List (Variant ρ × Bool)) × σ
  | [],      st => (.ok [], st)
  | v :: vs, st =>
      match judge ⟨session, slotId, v⟩ st with
      | (.error f, st) => (.error f, st)
      | (.ok b, st)    =>
          match judgeAll judge session slotId vs st with
          | (.error f, st)  => (.error f, st)
          | (.ok rest, st)  => (.ok ((v, b) :: rest), st)

/-- The variants that passed. -/
def survivors (verdicts : List (Variant ρ × Bool)) : List (Variant ρ) :=
  (verdicts.filter (·.2)).map (·.1)

/-- The variant that an override forces on a slot; an empty id forces nothing, and settings may let
    overrides expire. -/
def Session.override? (s : Session ρ) (settings : Settings ρ) (slotId : String) (now : ρ) :
    Option String := do
  let overrides ← s.overrides
  let forced ← overrides.forceVariant.get? slotId
  let expired := settings.honorOverrideExpiry &&
    (match overrides.expiresAt with
      | some t => Scalar.lt t now
      | none   => false)
  if forced.isEmpty || expired then none else some forced

namespace Decision

/-- A decision for a variant that is to be remembered. -/
def remembered (slot : Slot ρ) (variantId : String) (why : Rationale ρ) (reason : Reason)
    (strength : Strength) (scope : Scope) : Decision ρ :=
  ⟨⟨slot.id, variantId, why⟩, some ⟨slot.id, variantId, reason, strength, scope⟩⟩

/-- A decision for the variant that an override forces. -/
def forced (settings : Settings ρ) (slot : Slot ρ) (variantId : String) (why : Rationale ρ) :
    Decision ρ :=
  remembered slot variantId { why with overridesUsed := some true } .teacherChoice .strong
    settings.stickyScope

/-- A decision for the variant of a record that still counts; it needs no new record. -/
def retained (slot : Slot ρ) (r : StickyRecord ρ) (why : Rationale ρ) : Decision ρ :=
  ⟨⟨slot.id, r.variantId, { why with stickyUsed := some true }⟩, none⟩

/-- A decision by ranking, from the verdicts on the eligible variants and the scores of those that
    survive. -/
def ofScores (settings : Settings ρ) (slot : Slot ρ) (first : Variant ρ) (why : Rationale ρ)
    (trace : Bool) (verdicts : List (Variant ρ × Bool)) (scored : List (Variant ρ × ρ)) :
    Decision ρ :=
  let why := if trace then
      { why with
        guards := .ofEntries (verdicts.map fun e => (e.1.id, e.2))
        score  := .ofEntries (scored.map fun e => (e.1.id, e.2)) }
    else why
  let fallback := ((slot.fallbackId.bind slot.variant?).getD first)
  let chosen := ((winner? scored).map (·.1)).getD fallback
  let config := chosen.sticky.getD {}
  remembered slot chosen.id why .firstPick
    (config.strength.getD settings.stickyStrength) (config.scope.getD settings.stickyScope)

/-- A decision by ranking, from the verdicts on the eligible variants. -/
def ofVerdicts (settings : Settings ρ) (slot : Slot ρ) (first : Variant ρ) (session : Session ρ)
    (why : Rationale ρ) (trace : Bool) (verdicts : List (Variant ρ × Bool)) : Decision ρ :=
  ofScores settings slot first why trace verdicts
    ((survivors verdicts).map fun v => (v, v.score session))

end Decision

/-- The id shown for a denied slot: the fallback's if it is not empty, else the first variant's. -/
def Slot.deniedChoice (slot : Slot ρ) (first : Variant ρ) : String :=
  match slot.fallbackId with
  | some id => if id.isEmpty then first.id else id
  | none    => first.id

/-- The decision on a denied slot. -/
def Slot.denied (settings : Settings ρ) (slot : Slot ρ) (first : Variant ρ) (why : Rationale ρ) :
    Except (SelectionError ρ) (Decision ρ) :=
  let chosen := slot.deniedChoice first
  if chosen.isEmpty then .error (.deniedWithoutFallback slot.id)
  else .ok (.remembered slot chosen why .firstPick .weak settings.stickyScope)

/-- Whether a policy allows a slot; without a verdict of its own it allows all. -/
def Policy.verdict (policy : Policy ρ) (slot : Slot ρ) (session : Session ρ) :
    Except CallerFailure Bool :=
  match policy.allows with
  | none        => .ok true
  | some allows => allows slot session

/-- Runs the steps without changing the session. -/
def decide (settings : Settings ρ) (judge : Judge σ ρ) (slot : Slot ρ) (session : Session ρ)
    (policy : Policy ρ) (trace : Bool) (now : ρ) (st : σ) :
    Except (SelectionError ρ) (Decision ρ) × σ :=
  match slot.variants with
  | []         => (.error (.noVariants slot.id), st)
  | first :: _ =>
      let why : Rationale ρ := { policyVersion := policy.version }
      match policy.verdict slot session with
      | .error f  => (.error (.policy f), st)
      | .ok false => (slot.denied settings first why, st)
      | .ok true  =>
          match session.override? settings slot.id now with
          | some id => (.ok (.forced settings slot id why), st)
          | none    =>
              match (session.stickyRecord? slot.id).filter (·.isLive now) with
              | some r => (.ok (.retained slot r why), st)
              | none   =>
                  let eligible := slot.variants.filter (·.suits session)
                  match judgeAll judge session slot.id eligible st with
                  | (.error f, st)     => (.error (.guard f), st)
                  | (.ok verdicts, st) =>
                      (.ok (.ofVerdicts settings slot first session why trace verdicts), st)

/-- The record that remembers a choice from a time on; the time must be a real number. -/
def StickyIntent.record (i : StickyIntent) (now : ρ) : Checked (StickyRecord ρ) :=
  match WireScalar.toReal? now with
  | none   => .faulty [⟨["at"], .notReal⟩]
  | some t => .ok
      { variantId := i.variantId, time := t, scope := i.scope, strength := i.strength,
        reason := some i.reason }

/-- Writes the record of a choice. -/
def Session.commit (s : Session ρ) (i : StickyIntent) (now : ρ) : Checked (Session ρ) :=
  (i.record now).map fun r => s.putSticky i.slotId (.record r)

/-- Decides and commits. -/
def select (settings : Settings ρ) (judge : Judge σ ρ) (slot : Slot ρ) (session : Session ρ)
    (policy : Policy ρ) (trace : Bool) (now : ρ) (st : σ) :
    Except (SelectionError ρ) (SelectionResult ρ × Session ρ) × σ :=
  match decide settings judge slot session policy trace now st with
  | (.error e, st) => (.error e, st)
  | (.ok d, st)    =>
      match d.intent with
      | none   => (.ok (d.result, session), st)
      | some i =>
          match session.commit i now with
          | .ok s      => (.ok (d.result, s), st)
          | .faulty is => (.error (.record is), st)

/-- The text of an error that concerns the slot as a whole. -/
def SelectionError.message? : SelectionError ρ → Option String
  | .noVariants id            => some ("No variants in slot " ++ id)
  | .deniedWithoutFallback id =>
      some ("Policy denied slot " ++ id ++ " and it has no fallback variant")
  | _ => none

end LessonVariants
