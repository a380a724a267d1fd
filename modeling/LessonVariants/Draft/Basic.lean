import LessonVariants.Selection
import LessonVariants.Session.Assign
import LessonVariants.Session.Create
import LessonVariants.Session.View

/-! # Drafts

    A caller may assign any data to a field of a session, also data that the field cannot have.  A
    draft is such a session: a session proper, and the data it holds in places where that data is
    not of the place's type.  Held data hides what the session itself has in the place.  Guards and
    the wire see the draft's view; a draft is read again as a session when it is reopened.

    The view is the session's with the held data put in (`Value.replaceInside`). -/

namespace LessonVariants

namespace Value

variable {ρ : Type}

/-- The value to which internal field names and keys lead. -/
def inside? : List String → Value ρ → Option (Value ρ)
  | [],      v           => some v
  | k :: ks, record _ fs => (fs.find? (·.1.internal == k)).bind fun e => inside? ks e.2
  | k :: ks, object m    => (Keyed.get? m k).bind (inside? ks)
  | _ :: _,  _           => none

/-- A value with another one in the place to which internal field names and keys lead. -/
def replaceInside (new : Value ρ) : List String → Value ρ → Value ρ
  | [],      _              => new
  | k :: ks, record kind fs =>
      record kind (fs.map fun e => if e.1.internal == k then (e.1, replaceInside new ks e.2) else e)
  | k :: ks, object m       =>
      object (m.map fun e => if e.1 == k then (e.1, replaceInside new ks e.2) else e)
  | _ :: _,  v              => v

end Value

/-- What can hold data of any kind: a field of one of the session's records, the time of the last
    answer on a skill, and the history of a slot. -/
inductive Place where
  | field (part name : String)
  | lastTime (skillId : String)
  | history (slotId : String)
  deriving DecidableEq, Repr

namespace Place

/-- The smoothed accuracy. -/
def accuracy : Place := .field "metrics" "acc_ewma"

/-- The smoothed latency. -/
def latency : Place := .field "metrics" "latency_ewma"

/-- The time spent idle. -/
def idleSec : Place := .field "metrics" "idle_sec"

/-- The number of correct answers in a row. -/
def streak : Place := .field "metrics" "streak"

/-- The number of answers. -/
def attempts : Place := .field "metrics" "attempts"

/-- The preferences of the learner. -/
def preferences : Place := .field "user" "preferences"

/-- The language of the learner. -/
def language : Place := .field "user" "lang"

/-- The device of the learner. -/
def device : Place := .field "env" "device"

/-- The track that the learner follows. -/
def track : Place := .field "ids" "track_id"

/-- The variants that overrides force. -/
def forced : Place := .field "overrides" "force_variant"

/-- The time up to which overrides hold. -/
def expiry : Place := .field "overrides" "expires_at"

/-- The internal names that lead to a place of a session. -/
def path : Place → List String
  | field part name => [part, name]
  | lastTime id     => ["per_skill", id, "last_ts"]
  | history id      => ["seen_variants", id]

/-- Whether a place lies in one of the session's records. -/
def isIn (part : String) : Place → Bool
  | field p _ => p == part
  | _         => false

/-- A session with data in a place, if the data is of the place's type. -/
def assign? (p : Place) (s : Session Number) (d : Data Number) : Option (Session Number) :=
  match p with
  | field part name => s.assign? part name d
  | lastTime id     => do
      let stats ← s.perSkill.get? id
      let t ← OfDatum.ofDatum? d
      return { s with perSkill := s.perSkill.insert id { stats with lastTs := t } }
  | history id      => do
      let ids ← OfDatum.ofDatum? d
      return { s with seenVariants := s.seenVariants.insert id ids }

end Place

/-- A session some of whose places may hold data that is not of their type. -/
structure Draft where
  session : Session Number
  held    : List (Place × Data Number) := []

/-- Why an operation on a draft fails: a part that is no record, a field that the record does not
    have, data of a kind that the operation has no use for, an integer beyond the range of doubles,
    data that cannot be read, or whatever a selection fails with. -/
inductive DraftError where
  | noRecord
  | undeclared
  | wrongKind
  | outOfRange
  | unreadable (e : CreateError)
  | selection (e : SelectionError Number)

namespace Draft

/-- The data held in a place. -/
def held? (d : Draft) (p : Place) : Option (Data Number) :=
  (d.held.find? (·.1 == p)).map Prod.snd

/-- Whether a place holds data that is not of its type. -/
def holds (d : Draft) (p : Place) : Bool :=
  (d.held? p).isSome

/-- A draft without held data in some places. -/
def release (d : Draft) (gone : Place → Bool) : Draft :=
  { d with held := d.held.filter fun e => !gone e.1 }

/-- A draft with its session proper changed. -/
def onSession (d : Draft) (f : Session Number → Session Number) : Draft :=
  { d with session := f d.session }

/-- Puts data in a place: into the session proper if it fits there. -/
def assign (d : Draft) (p : Place) (x : Data Number) : Draft :=
  match p.assign? d.session x with
  | some s => { d.release (· == p) with session := s }
  | none   => { d.release (· == p) with held := (d.release (· == p)).held ++ [(p, x)] }

/-- A draft as a value. -/
def view (d : Draft) : Value Number :=
  d.held.foldl (fun v e => .replaceInside (.ofData e.2) e.1.path v) d.session.view

/-- A draft as it is written on the wire. -/
def toData (d : Draft) : Data Number :=
  d.view.toData

/-- The data in a place; null if there is no such place. -/
def data (d : Draft) (p : Place) : Data Number :=
  ((d.view.inside? p.path).map Value.toData).getD .null

/-- Assigns a field by internal names.  A name with an underscore in front belongs to no field, and
    what is put there is kept nowhere. -/
def putField (d : Draft) (part name : String) (x : Data Number) : Except DraftError Draft :=
  match d.view.inside? [part] with
  | some (.record _ fields) =>
      if name.startsWith "_" then .ok d
      else if fields.any (·.1.internal == name) then .ok (d.assign (.field part name) x)
      else .error .undeclared
  | _ => .error .noRecord

/-- Puts overrides in place of those before. -/
def override (d : Draft) (o : Option (Overrides Number)) : Draft :=
  (d.release (·.isIn "overrides")).onSession fun s => { s with overrides := o }

/-- Opens the session anew from what the draft shows. -/
def reopen (settings : Settings Number) (d : Draft) : Except DraftError Draft :=
  match Session.create settings d.toData with
  | .ok s    => .ok ⟨s, []⟩
  | .error e => .error (.unreadable e)

end Draft

end LessonVariants
