import LessonVariants.Draft.Basic
import LessonVariants.Session.Update

/-! # Updating drafts

    What changes a session changes a draft.  A draft may hold data that cannot be counted with, and
    the data of an update may be of any kind too, so that an update can fail, and it may have
    changed a part of the draft by then.  Where the draft and the update give numbers of the right
    types, the update is that of the session. -/

namespace LessonVariants

/-- A change of a draft that may fail midway. -/
abbrev Change := ExceptT DraftError (StateM Draft)

namespace Change

/-- Fails unless a condition holds. -/
def demand (b : Bool) (e : DraftError) : Change Unit :=
  if b then pure () else throw e

/-- The number that data counts as. -/
def amount (x : Data Number) : Change Number :=
  match x.amount? with
  | some n => pure n
  | none   => throw .wrongKind

/-- The number in a place. -/
def amountIn (p : Place) : Change Number := do
  amount ((← get).data p)

/-- Puts a number in a place. -/
def putAmount (p : Place) (n : Number) : Change Unit :=
  modify (·.assign p (.number n))

/-- The number in a place grows by one. -/
def increase (p : Place) : Change Unit := do
  putAmount p ((← amountIn p) + 1)

end Change

/-- Bounds for latencies given as a list of at most two numbers. -/
def LatencyClip.ofData (d : Data Number) : Change (LatencyClip Number) :=
  match d with
  | .list []         => pure usual
  | .list [low]      => return { usual with min := ← Change.amount low }
  | .list [low, top] => return ⟨← Change.amount low, ← Change.amount top⟩
  | _                => throw .wrongKind

namespace Draft

open Change

/-- An answer.  Accuracy comes first, then the streak, then the number of answers. -/
def recordAnswer (alpha : Data Number) (correct : Bool) : Change Unit := do
  let a ← amount alpha
  let previous ← amountIn .accuracy
  demand (blendable a previous (outcome correct)) .outOfRange
  let d ← get
  if d.holds .streak || d.holds .attempts then
    putAmount .accuracy (blend a previous (outcome correct))
    if correct then increase .streak else putAmount .streak 0
    increase .attempts
  else
    set ((d.assign .accuracy (.number previous)).onSession (·.recordAnswer a correct))

/-- A response time. -/
def recordLatency (alpha : Data Number) (clip : LatencyClip Number) (observed : Data Number) :
    Change Unit := do
  let ms ← amount observed
  let a ← amount alpha
  let previous ← amountIn .latency
  demand (blendable a previous (clip.apply ms)) .outOfRange
  modify fun d =>
    (d.assign .latency (.number previous)).onSession (·.recordLatency a clip ms)

/-- Idle time. -/
def addIdle (delta : Data Number) : Change Unit := do
  let previous ← amountIn .idleSec
  let seconds ← amount delta
  demand (previous.compatible seconds) .outOfRange
  modify fun d => (d.assign .idleSec (.number previous)).onSession (·.addIdle seconds)

/-- A preference for a theme. -/
def preferTheme (p : Preference Number) : Change Unit := do
  demand (!(← get).holds .preferences) .noRecord
  modify (·.onSession (·.preferTheme p))

/-- An answer that concerns a skill.  A skill that was never tried gets its initial stats before
    anything else. -/
def recordSkillAnswer (id : String) (alpha : Data Number) (correct : Bool) (now : Data Number) :
    Change Unit := do
  modify (·.onSession fun s => { s with perSkill := s.perSkill.insertIfNew id .initial })
  let a ← amount alpha
  let stats := (← get).session.skill id
  demand (blendable a stats.accuracy (outcome correct)) .outOfRange
  modify (·.onSession (·.recordSkillAnswer id a correct (now.amount?.getD stats.lastTs)))
  modify (·.assign (.lastTime id) now)

/-- A shown variant, except when the slot showed it last. -/
def recordSeen (slotId : String) (variant : Data Number) : Change Unit :=
  modify fun d =>
    match variant, d.held? (.history slotId) with
    | .text id, none             => d.onSession (·.recordSeen slotId id)
    | _,        some (.list ids) => d.assign (.history slotId) (.list (extended ids))
    | _,        _                =>
        let ids := (d.session.seenVariants.get? slotId).getD []
        let d := d.onSession fun s => { s with seenVariants := s.seenVariants.insert slotId ids }
        d.assign (.history slotId) (.list (extended (ids.map .text)))
where
  /-- A history with the variant at its end. -/
  extended (ids : List (Data Number)) : List (Data Number) :=
    match ids.getLast? with
    | some last => if (Value.ofData last).same (.ofData variant) then ids else ids ++ [variant]
    | none      => [variant]

end Draft

end LessonVariants
