import LessonVariants.Draft.Update

/-! # Selecting for drafts

    A draft resolves a slot by the same steps as a session.  What a step reads may be data of any
    kind, and so may the time: foreign words equal no word of a variant, and what would have to be
    counted with or looked into fails when its step is reached.  A draft that holds nothing, at a
    time that is a number, is decided as its session is. -/

namespace LessonVariants

variable {σ : Type}

/-- Whether the first datum is below the second; nothing if they are not ordered.  Numbers are
    ordered among themselves, and so are texts. -/
def Data.isBelow? (a b : Data Number) : Option Bool :=
  match a.amount?, b.amount?, a, b with
  | some x, some y, _,       _       => some (Scalar.lt x y)
  | _,      _,      .text s, .text t => some (compare s t == .lt)
  | _,      _,      _,       _       => none

/-- Whether a record still counts at a time.  The time matters only if there is a lifetime. -/
def StickyRecord.isLiveAt (r : StickyRecord Number) (now : Data Number) : Except DraftError Bool :=
  match now.amount?, r.ttlMs with
  | some t, _        => .ok (r.isLive t)
  | none,   none     => .ok true
  | none,   some ttl => if Scalar.isZero ttl then .ok true else .error .wrongKind

namespace Draft

/-- The values that guards see, the session's being the draft's view. -/
def scope (d : Draft) (a : Activation Number) : Root → Value Number
  | .session => d.view
  | root     => a.scope root

/-- Judges guards by their compiled text, in the room of the caller and with the draft in view. -/
def judge (d : Draft) (room : Room) : Judge GuardCache Number := fun a cache =>
  GuardCache.judgeIn room (d.scope a) a cache

/-- A variant as it looks from the draft's device: a foreign device is on no list. -/
def seenFrom (d : Draft) (v : Variant Number) : Variant Number :=
  if d.holds .device then
    { v with labels := { v.labels with deviceFit := v.labels.deviceFit.map fun _ => [] } }
  else v

/-- The term for the device. -/
def deviceScore (d : Draft) (v : Variant Number) : Number :=
  (d.seenFrom v).deviceScore d.session

/-- The score of a variant for a draft. -/
def score (d : Draft) (v : Variant Number) : Except DraftError Number :=
  match (d.data .accuracy).amount? with
  | none   => .error .wrongKind
  | some a =>
      if !(1 - a).hasFloat then .error .outOfRange
      else if d.holds .preferences then .error .noRecord
      else .ok ((d.seenFrom v).score (d.assign .accuracy (.number a)).session)

/-- Whether the variant's track is the draft's, if both have one. -/
def followsTrack (d : Draft) (v : Variant Number) : Bool :=
  match d.held? .track with
  | none   => true
  | some x => x.isVoid || (v.labels.track.getD "").isEmpty

/-- Whether the labels of the variant suit the draft: no variant is in a foreign language, made for
    a foreign device or on a foreign track. -/
def suits (d : Draft) (v : Variant Number) : Bool :=
  let s := if d.holds .track then (d.assign .track .null).session else d.session
  (d.seenFrom v).suits s && (v.labels.language.isNone || !d.holds .language) && d.followsTrack v

/-- What an override forces on a slot, if it has not expired. -/
def override? (d : Draft) (settings : Settings Number) (slotId : String) (now : Data Number) :
    Except DraftError (Option (Data Number)) :=
  match d.session.overrides, d.data .forced with
  | none,   _         => .ok none
  | some _, .object m =>
      let choice := (Keyed.get? m slotId).getD .null
      let limit := d.data .expiry
      if choice.isVoid then .ok none
      else
        match settings.honorOverrideExpiry, limit, limit.isBelow? now with
        | false, _,     _          => .ok (some choice)
        | true,  .null, _          => .ok (some choice)
        | true,  _,     some true  => .ok none
        | true,  _,     some false => .ok (some choice)
        | true,  _,     none       => .error .wrongKind
  | some _, _ => .error .noRecord

/-- The record that keeps a slot's variant. -/
def retained? (d : Draft) (slotId : String) (now : Data Number) :
    Except DraftError (Option (StickyRecord Number)) :=
  match d.session.stickyRecord? slotId with
  | none   => .ok none
  | some r => (r.isLiveAt now).map fun live => if live then some r else none

/-- A decision by ranking. -/
def rank (settings : Settings Number) (judge : Judge σ Number) (slot : Slot Number)
    (first : Variant Number) (d : Draft) (why : Rationale Number) (trace : Bool) (st : σ) :
    Except DraftError (Decision Number) × σ :=
  match judgeAll judge d.session slot.id (slot.variants.filter d.suits) st with
  | (.error f, st)     => (.error (.selection (.guard f)), st)
  | (.ok verdicts, st) =>
      let scored := (survivors verdicts).mapM fun v => (d.score v).map fun x => (v, x)
      (scored.map (.ofScores settings slot first why trace verdicts), st)

/-- A forced choice, which has to be a variant's id. -/
def forcedDecision (settings : Settings Number) (slot : Slot Number) (why : Rationale Number)
    (choice : Data Number) : Except DraftError (Decision Number) :=
  match choice with
  | .text id => .ok (.forced settings slot id why)
  | _        => .error (.unreadable (.issues [⟨["variant_id"], .notText⟩]))

/-- Runs the steps on a draft that may hold data of any kind, at a time of any kind. -/
def decideHeld (settings : Settings Number) (judge : Judge σ Number) (slot : Slot Number)
    (d : Draft) (policy : Policy Number) (trace : Bool) (now : Data Number) (st : σ) :
    Except DraftError (Decision Number) × σ :=
  match slot.variants with
  | []         => (.error (.selection (.noVariants slot.id)), st)
  | first :: _ =>
      let why : Rationale Number := { policyVersion := policy.version }
      match policy.verdict slot d.session with
      | .error f  => (.error (.selection (.policy f)), st)
      | .ok false => ((slot.denied settings first why).mapError .selection, st)
      | .ok true  =>
          match d.override? settings slot.id now with
          | .error e          => (.error e, st)
          | .ok (some choice) => (forcedDecision settings slot why choice, st)
          | .ok none          =>
              match d.retained? slot.id now with
              | .error e     => (.error e, st)
              | .ok (some r) => (.ok (.retained slot r why), st)
              | .ok none     => rank settings judge slot first d why trace st

/-- The session proper, if nothing is held and the accuracy is within the range of doubles. -/
def settled? (d : Draft) : Option (Session Number) :=
  if d.held.isEmpty && (1 - d.session.metrics.accuracy).hasFloat then some d.session else none

/-- Runs the steps without changing the draft. -/
def decide (settings : Settings Number) (judge : Judge σ Number) (slot : Slot Number) (d : Draft)
    (policy : Policy Number) (trace : Bool) (now : Data Number) (st : σ) :
    Except DraftError (Decision Number) × σ :=
  match d.settled?, now with
  | some s, .number t =>
      match LessonVariants.decide settings judge slot s policy trace t st with
      | (r, st) => (r.mapError .selection, st)
  | _, _ => decideHeld settings judge slot d policy trace now st

/-- Writes the record of a choice; the time has to be a real number or the text of one. -/
def commit (d : Draft) (i : StickyIntent) (now : Data Number) : Except DraftError Draft :=
  match (Read.real now).under "at" with
  | .ok t      => commitAt d i t
  | .faulty is => .error (.unreadable (.issues is))
where
  /-- Writes the record of a choice at a time. -/
  commitAt (d : Draft) (i : StickyIntent) (t : Number) : Except DraftError Draft :=
    match d.session.commit i t with
    | .ok s      => .ok { d with session := s }
    | .faulty is => .error (.unreadable (.issues is))

/-- Decides and commits. -/
def select (settings : Settings Number) (judge : Judge σ Number) (slot : Slot Number) (d : Draft)
    (policy : Policy Number) (trace : Bool) (now : Data Number) (st : σ) :
    Except DraftError (SelectionResult Number × Draft) × σ :=
  match d.decide settings judge slot policy trace now st with
  | (.error e, st) => (.error e, st)
  | (.ok c, st)    =>
      match c.intent with
      | none   => (.ok (c.result, d), st)
      | some i => ((d.commit i now).map fun d => (c.result, d), st)

end Draft

end LessonVariants
