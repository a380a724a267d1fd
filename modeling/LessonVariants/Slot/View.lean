import LessonVariants.Session.View
import LessonVariants.Slot.Basic

/-! # Slots and results as values -/

namespace LessonVariants

variable {ρ : Type}

open Value

/-- What a variant offers as a value. -/
def VariantAccessibility.view (a : VariantAccessibility) : Value ρ :=
  record "VariantAccessibility" [
    (⟨"captions", "captions"⟩, ofFlag? a.captions),
    (⟨"transcript", "transcript"⟩, ofFlag? a.transcript),
    (⟨"dyslexicFont", "dyslexic_font"⟩, ofFlag? a.dyslexicFont)]

/-- Labels of a variant as a value. -/
def VariantMeta.view (m : VariantMeta ρ) : Value ρ :=
  record "VariantMeta" [
    (⟨"difficulty", "difficulty"⟩, ofWord? m.difficulty),
    (⟨"modality", "modality"⟩, ofWord? m.modality),
    (⟨"language", "language"⟩, ofWord? m.language),
    (⟨"durationSec", "duration_sec"⟩, ofNumber? m.durationSec),
    (⟨"theme", "theme"⟩, ofText? m.theme),
    (⟨"cognitiveLoad", "cognitive_load"⟩, ofWord? m.load),
    (⟨"deviceFit", "device_fit"⟩, ofOption (ofList ofWord) m.deviceFit),
    (⟨"accessibility", "accessibility"⟩, ofOption VariantAccessibility.view m.accessibility),
    (⟨"skills", "skills"⟩, ofOption ofTexts m.skills),
    (⟨"knowledgeTag", "knowledge_tag"⟩, ofText? m.knowledgeTag),
    (⟨"prerequisites", "prerequisites"⟩, ofOption ofTexts m.prerequisites),
    (⟨"track", "track"⟩, ofText? m.track)]

/-- Weights as a value. -/
def ScoreWeights.view (w : ScoreWeights ρ) : Value ρ :=
  record "ScoreWeights" [
    (⟨"preferLowAcc", "prefer_low_acc"⟩, ofNumber? w.lowAccuracy),
    (⟨"preferThemeMatch", "prefer_theme_match"⟩, ofNumber? w.themeMatch),
    (⟨"preferModality", "prefer_modality"⟩, ofOption (ofKeyed number) w.modality)]

/-- A variant's wishes about being remembered as a value. -/
def StickyConfig.view (c : StickyConfig) : Value ρ :=
  record "StickyConfig" [
    (⟨"scope", "scope"⟩, ofWord? c.scope),
    (⟨"strength", "strength"⟩, ofWord? c.strength)]

/-- A guard as a value. -/
def Guard.view : Guard ρ → Value ρ
  | text s => .text s
  | test _ => .test

/-- A variant as a value. -/
def Variant.view (v : Variant ρ) : Value ρ :=
  record "Variant" [
    (⟨"id", "id"⟩, text v.id),
    (⟨"meta", "meta"⟩, v.labels.view),
    (⟨"guard", "guard"⟩, ofOption Guard.view v.guard),
    (⟨"scoreWeights", "score_weights"⟩, ofOption ScoreWeights.view v.weights),
    (⟨"sticky", "sticky"⟩, ofOption StickyConfig.view v.sticky)]

/-- A slot as a value. -/
def Slot.view (s : Slot ρ) : Value ρ :=
  record "Slot" [
    (⟨"id", "id"⟩, text s.id),
    (⟨"variants", "variants"⟩, ofList Variant.view s.variants),
    (⟨"fallbackVariantId", "fallback_variant_id"⟩, ofText? s.fallbackId)]

/-- A policy as a value; its verdict is not shown. -/
def Policy.view [Scalar ρ] (p : Policy ρ) : Value ρ :=
  record "Policy" [
    (⟨"version", "version"⟩, text p.version),
    (⟨"caps", "caps"⟩, ofOption PolicyCaps.view p.caps),
    (⟨"hash", "hash"⟩, ofText? p.hash)]

/-- A rationale as a value. -/
def Rationale.view (w : Rationale ρ) : Value ρ :=
  record "SelectionWhy" [
    (⟨"policyVersion", "policy_version"⟩, text w.policyVersion),
    (⟨"guards", "guards"⟩, ofKeyed bool w.guards),
    (⟨"score", "score"⟩, ofKeyed number w.score),
    (⟨"stickyUsed", "sticky_used"⟩, ofFlag? w.stickyUsed),
    (⟨"overridesUsed", "overrides_used"⟩, ofFlag? w.overridesUsed)]

/-- A result as a value. -/
def SelectionResult.view (r : SelectionResult ρ) : Value ρ :=
  record "SelectionResult" [
    (⟨"slotId", "slot_id"⟩, text r.slotId),
    (⟨"variantId", "variant_id"⟩, text r.variantId),
    (⟨"why", "why"⟩, r.why.view)]

end LessonVariants
