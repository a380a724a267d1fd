import LessonVariants.Data
import LessonVariants.Vocabulary

/-! # Sessions

    A session is what the engine knows about one learner on one page: who and where the learner
    is, preferences, the device, rolling metrics, remembered choices and overrides. -/

namespace LessonVariants

/-- Identity keys of a learner on a page of a lesson. -/
structure SessionIds where
  userId       : String        := ""
  courseId     : String        := ""
  trackId      : Option String := none
  lessonId     : String        := ""
  pageId       : String        := ""
  attemptId    : Option String := none
  enrollmentId : Option String := none
  deriving DecidableEq

/-- What the learner needs in order to follow the content. -/
structure Accessibility (ρ : Type) where
  captions     : Bool        := true
  transcript   : Bool        := false
  dyslexicFont : Option Bool := none
  fontScale    : Option ρ    := none
  highContrast : Option Bool := none

/-- One preference, with who stated it and how sure that is. -/
structure Preference (ρ : Type) where
  value      : String
  source     : Provenance := .student
  confidence : Option ρ   := none

/-- The preferences of a learner. -/
structure Preferences (ρ : Type) where
  theme        : Option (Preference ρ) := none
  tone         : Option (Preference ρ) := none
  modalityBias : Option (Preference ρ) := none

/-- The learner. -/
structure User (ρ : Type) where
  name          : Option String   := none
  givenName     : Option String   := none
  familyName    : Option String   := none
  gender        : Option Gender   := none
  lang          : Language        := .he
  accessibility : Accessibility ρ := {}
  preferences   : Preferences ρ   := {}

/-- The learner's device and connection. -/
structure Environment where
  device   : Device         := .desktop
  online   : Bool           := true
  network  : Option Network := none
  timezone : Option String  := none
  deriving DecidableEq

/-- Estimates of the learner's mood. -/
structure Affect (ρ : Type) where
  frustration : Option ρ := none
  confidence  : Option ρ := none
  engagement  : Option ρ := none

/-- Rolling performance metrics. -/
structure Metrics (ρ : Type) where
  accuracy : ρ
  latency  : ρ
  idleSec  : ρ
  streak   : Int               := 0
  fatigue  : ρ
  affect   : Option (Affect ρ) := none
  attempts : Int               := 0

/-- The metrics of a fresh session.  Accuracy starts optimistically at one. -/
def Metrics.initial {ρ : Type} [Scalar ρ] : Metrics ρ where
  accuracy := Scalar.ofDecimal ⟨1, 0⟩
  latency  := Scalar.ofDecimal ⟨1000, 0⟩
  idleSec  := Scalar.ofInt 0
  fatigue  := Scalar.ofDecimal ⟨0, 0⟩

/-- Performance on one skill. -/
structure SkillStats (ρ : Type) where
  accuracy      : ρ
  attempts      : Int      := 0
  lastTs        : ρ
  difficultyGap : Option ρ := none

/-- The performance on a skill that was never tried. -/
def SkillStats.initial {ρ : Type} [Scalar ρ] : SkillStats ρ where
  accuracy := Scalar.ofDecimal ⟨1, 0⟩
  lastTs   := Scalar.ofInt 0

/-- A remembered choice for one slot.  Times are in milliseconds of the epoch. -/
structure StickyRecord (ρ : Type) where
  variantId : String
  time      : ρ
  scope     : Scope         := .lesson
  ttlMs     : Option ρ      := none
  strength  : Strength      := .weak
  reason    : Option Reason := none

/-- What a session holds for a slot: a record, or data that has not been read as one. -/
inductive StickyEntry (ρ : Type) where
  | record (r : StickyRecord ρ)
  | raw    (d : Data ρ)

/-- Wishes that do not bind the engine. -/
structure SoftOverrides where
  preferredTheme : Option String := none
  preferredTone  : Option Tone   := none
  deriving DecidableEq

/-- Constraints with authority over the engine. -/
structure Overrides (ρ : Type) where
  forceVariant    : Keyed String         := []
  forceDifficulty : Option Difficulty    := none
  forceTheme      : Option String        := none
  disableHints    : Option Bool          := none
  soft            : Option SoftOverrides := none
  source          : Option Authority     := none
  expiresAt       : Option ρ             := none

/-- Limits that a policy sets. -/
structure PolicyCaps where
  hintPerSession : Option Int := none
  deriving DecidableEq

/-- The policy last known to a session. -/
structure PolicyInfo where
  version : String            := "dev"
  caps    : Option PolicyCaps := none
  hash    : Option String     := none
  deriving DecidableEq

/-- An audited event. -/
structure TraceEvent (ρ : Type) where
  type : String
  ts   : ρ
  data : Option (Keyed (Data ρ)) := none

/-- What the engine knows about one learner. -/
structure Session (ρ : Type) where
  ids          : SessionIds              := {}
  user         : User ρ                  := {}
  env          : Environment             := {}
  metrics      : Metrics ρ
  perSkill     : Keyed (SkillStats ρ)    := []
  sticky       : Keyed (StickyEntry ρ)   := []
  overrides    : Option (Overrides ρ)    := none
  seenVariants : Keyed (List String)     := []
  policy       : PolicyInfo              := {}
  trace        : List (TraceEvent ρ)     := []

end LessonVariants
