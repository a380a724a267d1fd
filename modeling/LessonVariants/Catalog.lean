import LessonVariants.Slot.Read
import LessonVariants.Slot.View

/-! # The catalog of records

    Every kind of record by its name.  Reading a record from free-form data and writing it again
    gives its normal form: wire names, defaults filled in, nothing that is absent. -/

namespace LessonVariants

/-- Data in the normal form of one kind of record. -/
def normalised {ρ : Type} [WireScalar ρ] {α : Type} (read : Keyed (Data ρ) → Checked α)
    (view : α → Value ρ) (d : Data ρ) : Checked (Data ρ) :=
  (Read.record read d).map fun a => (view a).toData

/-- The normal form of data as a record of the named kind; nothing if there is no such kind. -/
def normalForm? {ρ : Type} [WireScalar ρ] (kind : String) (d : Data ρ) :
    Option (Checked (Data ρ)) :=
  match kind with
  | "SessionIds"           => some (normalised SessionIds.read SessionIds.view d)
  | "Accessibility"        => some (normalised Accessibility.read Accessibility.view d)
  | "Preference"           => some (normalised Preference.read Preference.view d)
  | "UserPreferences"      => some (normalised Preferences.read Preferences.view d)
  | "UserContext"          => some (normalised User.read User.view d)
  | "Environment"          => some (normalised Environment.read Environment.view d)
  | "Affect"               => some (normalised Affect.read Affect.view d)
  | "Metrics"              => some (normalised Metrics.read Metrics.view d)
  | "SkillStats"           => some (normalised SkillStats.read SkillStats.view d)
  | "StickyRecord"         => some (normalised StickyRecord.read StickyRecord.view d)
  | "SoftOverrides"        => some (normalised SoftOverrides.read SoftOverrides.view d)
  | "Overrides"            => some (normalised Overrides.read Overrides.view d)
  | "PolicyCaps"           => some (normalised PolicyCaps.read PolicyCaps.view d)
  | "PolicyInfo"           => some (normalised PolicyInfo.read PolicyInfo.view d)
  | "TraceEvent"           => some (normalised TraceEvent.read TraceEvent.view d)
  | "SessionState"         => some (normalised Session.read Session.view d)
  | "VariantAccessibility" => some (normalised VariantAccessibility.read VariantAccessibility.view d)
  | "VariantMeta"          => some (normalised VariantMeta.read VariantMeta.view d)
  | "ScoreWeights"         => some (normalised ScoreWeights.read ScoreWeights.view d)
  | "StickyConfig"         => some (normalised StickyConfig.read StickyConfig.view d)
  | "Variant"              => some (normalised Variant.read Variant.view d)
  | "Slot"                 => some (normalised Slot.read Slot.view d)
  | "Policy"               => some (normalised Policy.read Policy.view d)
  | "SelectionWhy"         => some (normalised Rationale.read Rationale.view d)
  | "SelectionResult"      => some (normalised SelectionResult.read SelectionResult.view d)
  | _                      => none

end LessonVariants
