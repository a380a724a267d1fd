import Mathlib.Tactic.Simproc.ExistsAndEq
import LessonVariants.Proofs.Wire.Fields
import LessonVariants.Session.Read

/-! # The fields of a session's records

    Each record of a session is read field by field (`ReadBy`), and its fields are the declared ones.
    So a session is read the same however the keys of its records are spelled
    (`Session.readBy.respects`).

    Each of the proofs takes the reader apart into the results for its fields, in their order. -/

namespace LessonVariants

open Read

variable {ρ : Type} [WireScalar ρ]

def SessionIds.fields : List (Field ρ SessionIds) := [
  .plain ⟨"userId", "user_id"⟩ "" text (·.userId),
  .plain ⟨"courseId", "course_id"⟩ "" text (·.courseId),
  .plain? ⟨"trackId", "track_id"⟩ text (·.trackId),
  .plain ⟨"lessonId", "lesson_id"⟩ "" text (·.lessonId),
  .plain ⟨"pageId", "page_id"⟩ "" text (·.pageId),
  .plain? ⟨"attemptId", "attempt_id"⟩ text (·.attemptId),
  .plain? ⟨"enrollmentId", "enrollment_id"⟩ text (·.enrollmentId)]

omit [WireScalar ρ] in
theorem SessionIds.readBy :
    ReadBy SessionIds.schema (SessionIds.read (ρ := ρ)) SessionIds.fields where
  declared := rfl
  apart := by decide
  eq_ok m a := by
    cases a
    simp [SessionIds.read, SessionIds.fields, and_assoc]

def Accessibility.fields : List (Field ρ (Accessibility ρ)) := [
  .plain ⟨"captions", "captions"⟩ true flag (·.captions),
  .plain ⟨"transcript", "transcript"⟩ false flag (·.transcript),
  .plain? ⟨"dyslexicFont", "dyslexic_font"⟩ flag (·.dyslexicFont),
  .plain? ⟨"fontScale", "font_scale"⟩ real (·.fontScale),
  .plain? ⟨"highContrast", "high_contrast"⟩ flag (·.highContrast)]

theorem Accessibility.readBy :
    ReadBy Accessibility.schema (Accessibility.read (ρ := ρ)) Accessibility.fields where
  declared := rfl
  apart := by decide
  eq_ok m a := by
    cases a
    simp [Accessibility.read, Accessibility.fields, and_assoc, -Bool.exists_bool]

def Preference.fields : List (Field ρ (Preference ρ)) := [
  .needed ⟨"value", "value"⟩ text (·.value),
  .plain ⟨"source", "source"⟩ .student word (·.source),
  .plain? ⟨"confidence", "confidence"⟩ real (·.confidence)]

theorem Preference.readBy :
    ReadBy Preference.schema (Preference.read (ρ := ρ)) Preference.fields where
  declared := rfl
  apart := by decide
  eq_ok m a := by
    cases a
    simp [Preference.read, Preference.fields, and_assoc]

def Preferences.fields : List (Field ρ (Preferences ρ)) := [
  .nested? ⟨"theme", "theme"⟩ Preference.readBy.respects (·.theme),
  .nested? ⟨"tone", "tone"⟩ Preference.readBy.respects (·.tone),
  .nested? ⟨"modalityBias", "modality_bias"⟩ Preference.readBy.respects (·.modalityBias)]

theorem Preferences.readBy :
    ReadBy Preferences.schema (Preferences.read (ρ := ρ)) Preferences.fields where
  declared := rfl
  apart := by decide
  eq_ok m a := by
    cases a
    simp [Preferences.read, Preferences.fields, and_assoc]

/-- The fields of a learner that are no records of their own. -/
def User.leaves : List (Field ρ (User ρ)) := [
  .plain? ⟨"name", "name"⟩ text (·.name),
  .plain? ⟨"givenName", "given_name"⟩ text (·.givenName),
  .plain? ⟨"familyName", "family_name"⟩ text (·.familyName),
  .plain? ⟨"gender", "gender"⟩ word (·.gender),
  .plain ⟨"lang", "lang"⟩ .he word (·.lang)]

def User.fields : List (Field ρ (User ρ)) :=
  User.leaves ++ [
    .nested ⟨"a11Y", "a11y"⟩ {} Accessibility.readBy.respects (·.accessibility),
    .nested ⟨"preferences", "preferences"⟩ {} Preferences.readBy.respects (·.preferences)]

theorem User.readBy : ReadBy User.schema (User.read (ρ := ρ)) User.fields where
  declared := rfl
  apart := by decide
  eq_ok m a := by
    cases a
    simp [User.read, User.fields, User.leaves, and_assoc]

def Environment.fields : List (Field ρ Environment) := [
  .plain ⟨"device", "device"⟩ .desktop word (·.device),
  .plain ⟨"online", "online"⟩ true flag (·.online),
  .plain? ⟨"netType", "net_type"⟩ word (·.network),
  .plain? ⟨"timezone", "timezone"⟩ text (·.timezone)]

theorem Environment.readBy :
    ReadBy Environment.schema (Environment.read (ρ := ρ)) Environment.fields where
  declared := rfl
  apart := by decide
  eq_ok m a := by
    cases a
    simp [Environment.read, Environment.fields, and_assoc]

def Affect.fields : List (Field ρ (Affect ρ)) := [
  .plain? ⟨"frustration", "frustration"⟩ real (·.frustration),
  .plain? ⟨"confidence", "confidence"⟩ real (·.confidence),
  .plain? ⟨"engagement", "engagement"⟩ real (·.engagement)]

theorem Affect.readBy : ReadBy Affect.schema (Affect.read (ρ := ρ)) Affect.fields where
  declared := rfl
  apart := by decide
  eq_ok m a := by
    cases a
    simp [Affect.read, Affect.fields, and_assoc]

def Metrics.fields : List (Field ρ (Metrics ρ)) := [
  .plain ⟨"accEWMA", "acc_ewma"⟩ Metrics.initial.accuracy real (·.accuracy),
  .plain ⟨"latencyEWMA", "latency_ewma"⟩ Metrics.initial.latency real (·.latency),
  .plain ⟨"idleSec", "idle_sec"⟩ Metrics.initial.idleSec real (·.idleSec),
  .plain ⟨"streak", "streak"⟩ 0 integer (·.streak),
  .plain ⟨"fatigue", "fatigue"⟩ Metrics.initial.fatigue real (·.fatigue),
  .nested? ⟨"affect", "affect"⟩ Affect.readBy.respects (·.affect),
  .plain ⟨"attempts", "attempts"⟩ 0 integer (·.attempts)]

theorem Metrics.readBy : ReadBy Metrics.schema (Metrics.read (ρ := ρ)) Metrics.fields where
  declared := rfl
  apart := by decide
  eq_ok m a := by
    cases a
    simp [Metrics.read, Metrics.fields, and_assoc]

def SkillStats.fields : List (Field ρ (SkillStats ρ)) := [
  .plain ⟨"accEWMA", "acc_ewma"⟩ SkillStats.initial.accuracy real (·.accuracy),
  .plain ⟨"attempts", "attempts"⟩ 0 integer (·.attempts),
  .plain ⟨"lastTs", "last_ts"⟩ SkillStats.initial.lastTs real (·.lastTs),
  .plain? ⟨"difficultyGap", "difficulty_gap"⟩ real (·.difficultyGap)]

theorem SkillStats.readBy :
    ReadBy SkillStats.schema (SkillStats.read (ρ := ρ)) SkillStats.fields where
  declared := rfl
  apart := by decide
  eq_ok m a := by
    cases a
    simp [SkillStats.read, SkillStats.fields, and_assoc]

def StickyRecord.fields : List (Field ρ (StickyRecord ρ)) := [
  .needed ⟨"variantId", "variant_id"⟩ text (·.variantId),
  .needed ⟨"at", "at"⟩ real (·.time),
  .plain ⟨"scope", "scope"⟩ .lesson word (·.scope),
  .plain? ⟨"ttlMs", "ttl_ms"⟩ real (·.ttlMs),
  .plain ⟨"strength", "strength"⟩ .weak word (·.strength),
  .plain? ⟨"reason", "reason"⟩ word (·.reason)]

theorem StickyRecord.readBy :
    ReadBy StickyRecord.schema (StickyRecord.read (ρ := ρ)) StickyRecord.fields where
  declared := rfl
  apart := by decide
  eq_ok m a := by
    cases a
    simp [StickyRecord.read, StickyRecord.fields, and_assoc]

/-- A choice is remembered, or taken for unreadable, however it is spelled. -/
theorem StickyEntry.respects :
    Respects (.map StickyRecord.schema) fun d : Data ρ => .ok (readAll d) := by
  have hone : ∀ d d' : Data ρ, Respelled StickyRecord.schema d d' → ofData d = ofData d' := by
    intro d d' hd
    rw [ofData, (StickyRecord.readBy.respects d d' hd).value?]
    rfl
  intro d d' hd
  cases hd with
  | same => exact fun _ => Iff.rfl
  | @map _ m m' hm =>
      have hall : (m.map fun e => (e.1, ofData e.2)) = m'.map fun e => (e.1, ofData e.2) := by
        induction m generalizing m' with
        | nil =>
            cases hm
            rfl
        | cons e m ih =>
            cases hm with
            | cons k hd hrest => rw [List.map_cons, List.map_cons, ih hrest, hone _ _ hd]
      show (Checked.ok (Keyed.ofEntries _)).Alike (Checked.ok (Keyed.ofEntries _))
      rw [hall]
      exact fun _ => Iff.rfl

def SoftOverrides.fields : List (Field ρ SoftOverrides) := [
  .plain? ⟨"preferredTheme", "preferred_theme"⟩ text (·.preferredTheme),
  .plain? ⟨"preferredTone", "preferred_tone"⟩ word (·.preferredTone)]

omit [WireScalar ρ] in
theorem SoftOverrides.readBy :
    ReadBy SoftOverrides.schema (SoftOverrides.read (ρ := ρ)) SoftOverrides.fields where
  declared := rfl
  apart := by decide
  eq_ok m a := by
    cases a
    simp [SoftOverrides.read, SoftOverrides.fields]

def Overrides.fields : List (Field ρ (Overrides ρ)) := [
  .nested ⟨"forceVariant", "force_variant"⟩ [] (respects_plain text).keyed (·.forceVariant),
  .plain? ⟨"forceDifficulty", "force_difficulty"⟩ word (·.forceDifficulty),
  .plain? ⟨"forceTheme", "force_theme"⟩ text (·.forceTheme),
  .plain? ⟨"disableHints", "disable_hints"⟩ flag (·.disableHints),
  .nested? ⟨"soft", "soft"⟩ SoftOverrides.readBy.respects (·.soft),
  .plain? ⟨"source", "source"⟩ word (·.source),
  .plain? ⟨"expiresAt", "expires_at"⟩ real (·.expiresAt)]

theorem Overrides.readBy :
    ReadBy Overrides.schema (Overrides.read (ρ := ρ)) Overrides.fields where
  declared := rfl
  apart := by decide
  eq_ok m a := by
    cases a
    simp [Overrides.read, Overrides.fields, and_assoc]

def PolicyCaps.fields : List (Field ρ PolicyCaps) := [
  .plain? ⟨"hintPerSession", "hint_per_session"⟩ integer (·.hintPerSession)]

theorem PolicyCaps.readBy :
    ReadBy PolicyCaps.schema (PolicyCaps.read (ρ := ρ)) PolicyCaps.fields where
  declared := rfl
  apart := by decide
  eq_ok m a := by
    cases a
    simp [PolicyCaps.read, PolicyCaps.fields, Checked.map_eq_ok]

def PolicyInfo.fields : List (Field ρ PolicyInfo) := [
  .plain ⟨"version", "version"⟩ "dev" text (·.version),
  .nested? ⟨"caps", "caps"⟩ PolicyCaps.readBy.respects (·.caps),
  .plain? ⟨"hash", "hash"⟩ text (·.hash)]

theorem PolicyInfo.readBy :
    ReadBy PolicyInfo.schema (PolicyInfo.read (ρ := ρ)) PolicyInfo.fields where
  declared := rfl
  apart := by decide
  eq_ok m a := by
    cases a
    simp [PolicyInfo.read, PolicyInfo.fields, and_assoc]

def TraceEvent.fields : List (Field ρ (TraceEvent ρ)) := [
  .needed ⟨"type", "type"⟩ text (·.type),
  .needed ⟨"ts", "ts"⟩ real (·.ts),
  .plain? ⟨"data", "data"⟩ freeForm (·.data)]

theorem TraceEvent.readBy :
    ReadBy TraceEvent.schema (TraceEvent.read (ρ := ρ)) TraceEvent.fields where
  declared := rfl
  apart := by decide
  eq_ok m a := by
    cases a
    simp [TraceEvent.read, TraceEvent.fields, and_assoc]

def Session.fields : List (Field ρ (Session ρ)) := [
  .nested ⟨"ids", "ids"⟩ {} SessionIds.readBy.respects (·.ids),
  .nested ⟨"user", "user"⟩ {} User.readBy.respects (·.user),
  .nested ⟨"env", "env"⟩ {} Environment.readBy.respects (·.env),
  .nested ⟨"metrics", "metrics"⟩ .initial Metrics.readBy.respects (·.metrics),
  .nested ⟨"perSkill", "per_skill"⟩ [] SkillStats.readBy.respects.keyed (·.perSkill),
  .nested ⟨"sticky", "sticky"⟩ [] StickyEntry.respects (·.sticky),
  .nested? ⟨"overrides", "overrides"⟩ Overrides.readBy.respects (·.overrides),
  .nested ⟨"seenVariants", "seen_variants"⟩ [] (respects_plain text).list.keyed (·.seenVariants),
  .nested ⟨"policy", "policy"⟩ {} PolicyInfo.readBy.respects (·.policy),
  .nested ⟨"trace", "trace"⟩ [] TraceEvent.readBy.respects.list (·.trace)]

theorem Session.readBy : ReadBy Session.schema (Session.read (ρ := ρ)) Session.fields where
  declared := rfl
  apart := by decide
  eq_ok m a := by
    cases a
    simp [Session.read, Session.fields, and_assoc]

end LessonVariants
