import LessonVariants.Session.Basic

/-! # Slots and variants

    A slot is a named place on a page that one of its variants fills.  A policy may deny a slot
    altogether. -/

namespace LessonVariants

/-- What a variant offers to learners with special needs. -/
structure VariantAccessibility where
  captions     : Option Bool := none
  transcript   : Option Bool := none
  dyslexicFont : Option Bool := none
  deriving DecidableEq

/-- Labels of a variant, for filtering and scoring. -/
structure VariantMeta (ρ : Type) where
  difficulty    : Option Difficulty           := none
  modality      : Option Modality             := none
  language      : Option Language             := none
  durationSec   : Option ρ                    := none
  theme         : Option String               := none
  load          : Option Load                 := none
  deviceFit     : Option (List Device)        := none
  accessibility : Option VariantAccessibility := none
  skills        : Option (List String)        := none
  knowledgeTag  : Option String               := none
  prerequisites : Option (List String)        := none
  track         : Option String               := none

/-- How much the parts of a variant's score weigh. -/
structure ScoreWeights (ρ : Type) where
  lowAccuracy : Option ρ         := none
  themeMatch  : Option ρ         := none
  modality    : Option (Keyed ρ) := none

/-- How a variant wants to be remembered. -/
structure StickyConfig where
  scope    : Option Scope    := none
  strength : Option Strength := none
  deriving DecidableEq

/-- What a caller's own test or policy fails with. -/
structure CallerFailure where
  cause : String
  deriving DecidableEq, Repr

/-- A guard: text of the guard language, or a test of the caller's own that is given the session
    and the slot's id. -/
inductive Guard (ρ : Type) where
  | text (source : String)
  | test (run : Session ρ → String → Except CallerFailure Bool)

/-- One candidate piece of content. -/
structure Variant (ρ : Type) where
  id      : String
  labels  : VariantMeta ρ           := {}
  guard   : Option (Guard ρ)        := none
  weights : Option (ScoreWeights ρ) := none
  sticky  : Option StickyConfig     := none

/-- A place that resolves to exactly one variant per view. -/
structure Slot (ρ : Type) where
  id         : String
  variants   : List (Variant ρ) := []
  fallbackId : Option String    := none

/-- The first declared variant with the given id. -/
def Slot.variant? {ρ : Type} (slot : Slot ρ) (id : String) : Option (Variant ρ) :=
  slot.variants.find? fun v => v.id == id

/-- Constraints published by the operator.  The verdict on a slot comes before everything else. -/
structure Policy (ρ : Type) where
  version : String            := "dev"
  caps    : Option PolicyCaps := none
  hash    : Option String     := none
  allows  : Option (Slot ρ → Session ρ → Except CallerFailure Bool) := none

/-- Why a decision came out as it did.  Guards and scores are recorded on demand only, and only for
    the variants that were looked at. -/
structure Rationale (ρ : Type) where
  policyVersion : String
  guards        : Keyed Bool  := []
  score         : Keyed ρ     := []
  stickyUsed    : Option Bool := none
  overridesUsed : Option Bool := none

/-- The outcome of a selection. -/
structure SelectionResult (ρ : Type) where
  slotId    : String
  variantId : String
  why       : Rationale ρ

end LessonVariants
