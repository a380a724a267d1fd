/-! # Closed vocabularies

    Words with a fixed set of values.  Each value has one label, by which it goes on the wire and
    in guards. -/

namespace LessonVariants

/-- A type of finitely many values with distinct labels. -/
class Vocabulary (α : Type) where
  all   : List α
  label : α → String

/-- The value with the given label. -/
def Vocabulary.ofLabel? {α : Type} [Vocabulary α] (s : String) : Option α :=
  (all : List α).find? fun a => label a == s

/-- Languages that content is written in. -/
inductive Language where
  | he | en
  deriving DecidableEq, Repr

instance : Vocabulary Language where
  all   := [.he, .en]
  label
    | .he => "he"
    | .en => "en"

/-- Classes of devices. -/
inductive Device where
  | mobile | desktop | tablet
  deriving DecidableEq, Repr

instance : Vocabulary Device where
  all   := [.mobile, .desktop, .tablet]
  label
    | .mobile  => "mobile"
    | .desktop => "desktop"
    | .tablet  => "tablet"

/-- Kinds of network connection. -/
inductive Network where
  | slow2g | g2 | g3 | g4 | wifi
  deriving DecidableEq, Repr

instance : Vocabulary Network where
  all   := [.slow2g, .g2, .g3, .g4, .wifi]
  label
    | .slow2g => "slow-2g"
    | .g2     => "2g"
    | .g3     => "3g"
    | .g4     => "4g"
    | .wifi   => "wifi"

/-- Genders a learner may state. -/
inductive Gender where
  | male | female | other
  deriving DecidableEq, Repr

instance : Vocabulary Gender where
  all   := [.male, .female, .other]
  label
    | .male   => "male"
    | .female => "female"
    | .other  => "other"

/-- Difficulties of content. -/
inductive Difficulty where
  | easy | std | hard
  deriving DecidableEq, Repr

instance : Vocabulary Difficulty where
  all   := [.easy, .std, .hard]
  label
    | .easy => "easy"
    | .std  => "std"
    | .hard => "hard"

/-- Forms of content. -/
inductive Modality where
  | video | quiz | reading | interactive | simulation | discussion
  deriving DecidableEq, Repr

instance : Vocabulary Modality where
  all   := [.video, .quiz, .reading, .interactive, .simulation, .discussion]
  label
    | .video       => "video"
    | .quiz        => "quiz"
    | .reading     => "reading"
    | .interactive => "interactive"
    | .simulation  => "simulation"
    | .discussion  => "discussion"

/-- Levels of cognitive load. -/
inductive Load where
  | low | med | high
  deriving DecidableEq, Repr

instance : Vocabulary Load where
  all   := [.low, .med, .high]
  label
    | .low  => "low"
    | .med  => "med"
    | .high => "high"

/-- Who stated a preference: the learner, or the system that inferred it. -/
inductive Provenance where
  | student | system
  deriving DecidableEq, Repr

instance : Vocabulary Provenance where
  all   := [.student, .system]
  label
    | .student => "student"
    | .system  => "system"

/-- Tones of address. -/
inductive Tone where
  | funny | serious
  deriving DecidableEq, Repr

instance : Vocabulary Tone where
  all   := [.funny, .serious]
  label
    | .funny   => "funny"
    | .serious => "serious"

/-- Who imposed an override. -/
inductive Authority where
  | teacher | policy | copilot | student
  deriving DecidableEq, Repr

instance : Vocabulary Authority where
  all   := [.teacher, .policy, .copilot, .student]
  label
    | .teacher => "teacher"
    | .policy  => "policy"
    | .copilot => "copilot"
    | .student => "student"

/-- How far a remembered choice reaches. -/
inductive Scope where
  | session | lesson | course
  deriving DecidableEq, Repr

instance : Vocabulary Scope where
  all   := [.session, .lesson, .course]
  label
    | .session => "session"
    | .lesson  => "lesson"
    | .course  => "course"

/-- How firmly a choice is remembered. -/
inductive Strength where
  | weak | strong
  deriving DecidableEq, Repr

instance : Vocabulary Strength where
  all   := [.weak, .strong]
  label
    | .weak   => "weak"
    | .strong => "strong"

/-- Why a choice was made. -/
inductive Reason where
  | firstPick | teacherChoice | studentPreference | copilot | abBucket | remediationPath
  deriving DecidableEq, Repr

instance : Vocabulary Reason where
  all   := [.firstPick, .teacherChoice, .studentPreference, .copilot, .abBucket, .remediationPath]
  label
    | .firstPick         => "first_pick"
    | .teacherChoice     => "teacher_choice"
    | .studentPreference => "student_preference"
    | .copilot           => "copilot"
    | .abBucket          => "ab_bucket"
    | .remediationPath   => "remediation_path"

end LessonVariants
