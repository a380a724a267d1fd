import LessonVariants.Session.Read
import LessonVariants.Slot.Basic

/-! # Reading slots, policies and results -/

namespace LessonVariants

open Read

variable {ρ : Type} [WireScalar ρ]

/-- What a variant offers. -/
def VariantAccessibility.read (m : Keyed (Data ρ)) : Checked VariantAccessibility :=
  VariantAccessibility.mk
    <$> optional m ⟨"captions", "captions"⟩ flag
    <*> optional m ⟨"transcript", "transcript"⟩ flag
    <*> optional m ⟨"dyslexicFont", "dyslexic_font"⟩ flag

/-- Labels of a variant. -/
def VariantMeta.read (m : Keyed (Data ρ)) : Checked (VariantMeta ρ) :=
  VariantMeta.mk
    <$> optional m ⟨"difficulty", "difficulty"⟩ word
    <*> optional m ⟨"modality", "modality"⟩ word
    <*> optional m ⟨"language", "language"⟩ word
    <*> optional m ⟨"durationSec", "duration_sec"⟩ real
    <*> optional m ⟨"theme", "theme"⟩ text
    <*> optional m ⟨"cognitiveLoad", "cognitive_load"⟩ word
    <*> optional m ⟨"deviceFit", "device_fit"⟩ (list word)
    <*> optional m ⟨"accessibility", "accessibility"⟩ (record VariantAccessibility.read)
    <*> optional m ⟨"skills", "skills"⟩ (list text)
    <*> optional m ⟨"knowledgeTag", "knowledge_tag"⟩ text
    <*> optional m ⟨"prerequisites", "prerequisites"⟩ (list text)
    <*> optional m ⟨"track", "track"⟩ text

/-- Weights. -/
def ScoreWeights.read (m : Keyed (Data ρ)) : Checked (ScoreWeights ρ) :=
  ScoreWeights.mk
    <$> optional m ⟨"preferLowAcc", "prefer_low_acc"⟩ real
    <*> optional m ⟨"preferThemeMatch", "prefer_theme_match"⟩ real
    <*> optional m ⟨"preferModality", "prefer_modality"⟩ (keyed real)

/-- A variant's wishes about being remembered. -/
def StickyConfig.read (m : Keyed (Data ρ)) : Checked StickyConfig :=
  StickyConfig.mk
    <$> optional m ⟨"scope", "scope"⟩ word
    <*> optional m ⟨"strength", "strength"⟩ word

/-- A guard: only text can come from outside, and anything else is neither text nor a test. -/
def Guard.read : Data ρ → Checked (Guard ρ)
  | .text s => .ok (.text s)
  | _       => .faulty [⟨["str"], .notText⟩, ⟨["callable"], .notCallable⟩]

/-- A variant. -/
def Variant.read (m : Keyed (Data ρ)) : Checked (Variant ρ) :=
  Variant.mk
    <$> required m ⟨"id", "id"⟩ text
    <*> field m ⟨"meta", "meta"⟩ {} (record VariantMeta.read)
    <*> optional m ⟨"guard", "guard"⟩ Guard.read
    <*> optional m ⟨"scoreWeights", "score_weights"⟩ (record ScoreWeights.read)
    <*> optional m ⟨"sticky", "sticky"⟩ (record StickyConfig.read)

/-- A slot. -/
def Slot.read (m : Keyed (Data ρ)) : Checked (Slot ρ) :=
  Slot.mk
    <$> required m ⟨"id", "id"⟩ text
    <*> field m ⟨"variants", "variants"⟩ [] (list (record Variant.read))
    <*> optional m ⟨"fallbackVariantId", "fallback_variant_id"⟩ text

/-- A policy.  Its verdict is a function and cannot come from outside. -/
def Policy.read (m : Keyed (Data ρ)) : Checked (Policy ρ) :=
  Policy.mk
    <$> field m ⟨"version", "version"⟩ "dev" text
    <*> optional m ⟨"caps", "caps"⟩ (record PolicyCaps.read)
    <*> optional m ⟨"hash", "hash"⟩ text
    <*> optional m ⟨"allows", "allows"⟩ (fun _ => .fault .notCallable)

/-- A rationale. -/
def Rationale.read (m : Keyed (Data ρ)) : Checked (Rationale ρ) :=
  Rationale.mk
    <$> required m ⟨"policyVersion", "policy_version"⟩ text
    <*> field m ⟨"guards", "guards"⟩ [] (keyed flag)
    <*> field m ⟨"score", "score"⟩ [] (keyed real)
    <*> optional m ⟨"stickyUsed", "sticky_used"⟩ flag
    <*> optional m ⟨"overridesUsed", "overrides_used"⟩ flag

/-- A result. -/
def SelectionResult.read (m : Keyed (Data ρ)) : Checked (SelectionResult ρ) :=
  SelectionResult.mk
    <$> required m ⟨"slotId", "slot_id"⟩ text
    <*> required m ⟨"variantId", "variant_id"⟩ text
    <*> required m ⟨"why", "why"⟩ (record Rationale.read)

end LessonVariants
