import LessonVariants.Session.Basic
import LessonVariants.Settings.Basic

/-! # Updating sessions

    What the learner does changes the session: answers, response times, idling, stated
    preferences, variants that were shown, and events to be audited.  Accuracy and latency are
    smoothed: `alpha` is the weight that the previous value keeps. -/

namespace LessonVariants

variable {ρ : Type} [Scalar ρ]

/-- The smoothed value after an observation. -/
def blend (alpha previous observed : ρ) : ρ :=
  alpha * previous + (Scalar.ofInt 1 - alpha) * observed

/-- Whether numbers can be blended at all. -/
def blendable (alpha previous observed : Number) : Bool :=
  let rest := 1 - alpha
  alpha.compatible previous && rest.compatible observed &&
    (alpha * previous).compatible (rest * observed)

/-- An answer as an observation: one if it is correct, else zero. -/
def outcome (correct : Bool) : ρ :=
  Scalar.ofDecimal ⟨if correct then 1 else 0, 0⟩

/-- The bounds that observed latencies are moved into. -/
structure LatencyClip (ρ : Type) where
  min : ρ
  max : ρ

/-- The bounds from 300 to 8000 milliseconds. -/
def LatencyClip.usual : LatencyClip ρ :=
  ⟨Scalar.ofInt 300, Scalar.ofInt 8000⟩

/-- The bounds that the settings prescribe, in whatever order they are. -/
def Settings.latencyClip (settings : Settings ρ) : LatencyClip ρ :=
  ⟨settings.latencyMin, settings.latencyMax⟩

/-- An observed latency within the bounds; where they cross, the lower bound wins. -/
def LatencyClip.apply (clip : LatencyClip ρ) (observed : ρ) : ρ :=
  Scalar.maxFirst clip.min (Scalar.minFirst clip.max observed)

/-- Metrics after an answer: accuracy is smoothed, the streak grows or ends. -/
def Metrics.answered (m : Metrics ρ) (alpha : ρ) (correct : Bool) : Metrics ρ :=
  { m with
    accuracy := blend alpha m.accuracy (outcome correct)
    streak   := if correct then m.streak + 1 else 0
    attempts := m.attempts + 1 }

/-- Stats of a skill after an answer. -/
def SkillStats.answered (s : SkillStats ρ) (alpha : ρ) (correct : Bool) (now : ρ) : SkillStats ρ :=
  { s with
    accuracy := blend alpha s.accuracy (outcome correct)
    attempts := s.attempts + 1
    lastTs   := now }

namespace Session

/-- An answer. -/
def recordAnswer (s : Session ρ) (alpha : ρ) (correct : Bool) : Session ρ :=
  { s with metrics := s.metrics.answered alpha correct }

/-- A response time. -/
def recordLatency (s : Session ρ) (alpha : ρ) (clip : LatencyClip ρ) (observed : ρ) : Session ρ :=
  { s with metrics :=
      { s.metrics with latency := blend alpha s.metrics.latency (clip.apply observed) } }

/-- Idle time, which may be negative; the counter stays at or above zero. -/
def addIdle (s : Session ρ) (delta : ρ) : Session ρ :=
  { s with metrics :=
      { s.metrics with idleSec := Scalar.maxFirst (Scalar.ofInt 0) (s.metrics.idleSec + delta) } }

/-- A preference for a theme, in place of the one before. -/
def preferTheme (s : Session ρ) (p : Preference ρ) : Session ρ :=
  { s with user := { s.user with preferences := { s.user.preferences with theme := some p } } }

/-- The stats of a skill; a skill without stats has the initial ones. -/
def skill (s : Session ρ) (id : String) : SkillStats ρ :=
  (s.perSkill.get? id).getD .initial

/-- An answer that concerns a skill. -/
def recordSkillAnswer (s : Session ρ) (id : String) (alpha : ρ) (correct : Bool) (now : ρ) :
    Session ρ :=
  { s with perSkill := s.perSkill.insert id ((s.skill id).answered alpha correct now) }

/-- A shown variant, except when the slot showed it last. -/
def recordSeen (s : Session ρ) (slotId variantId : String) : Session ρ :=
  let history := (s.seenVariants.get? slotId).getD []
  let history := if history.getLast? = some variantId then history else history ++ [variantId]
  { s with seenVariants := s.seenVariants.insert slotId history }

/-- An event to be audited. -/
def recordEvent (s : Session ρ) (e : TraceEvent ρ) : Session ρ :=
  { s with trace := s.trace ++ [e] }

end Session

end LessonVariants
