import LessonVariants.Guard.Value
import LessonVariants.Session.Basic

/-! # Sessions as values

    How the records of a session look to guards and on the wire: each field under its two names. -/

namespace LessonVariants

variable {ρ : Type}

namespace Value

/-- A value of a closed vocabulary is shown by its label. -/
def ofWord {α : Type} [Vocabulary α] (a : α) : Value ρ :=
  text (Vocabulary.label a)

/-- An optional text. -/
def ofText? : Option String → Value ρ :=
  ofOption text

/-- An optional truth value. -/
def ofFlag? : Option Bool → Value ρ :=
  ofOption bool

/-- An optional number. -/
def ofNumber? : Option ρ → Value ρ :=
  ofOption number

/-- An optional value of a closed vocabulary. -/
def ofWord? {α : Type} [Vocabulary α] : Option α → Value ρ :=
  ofOption ofWord

/-- A list of texts. -/
def ofTexts (xs : List String) : Value ρ :=
  ofList text xs

/-- An integer as a number. -/
def ofInt [Scalar ρ] (i : Int) : Value ρ :=
  number (Scalar.ofInt i)

end Value

open Value

/-- Identity keys as a value. -/
def SessionIds.view (i : SessionIds) : Value ρ :=
  record "SessionIds" [
    (⟨"userId", "user_id"⟩, text i.userId),
    (⟨"courseId", "course_id"⟩, text i.courseId),
    (⟨"trackId", "track_id"⟩, ofText? i.trackId),
    (⟨"lessonId", "lesson_id"⟩, text i.lessonId),
    (⟨"pageId", "page_id"⟩, text i.pageId),
    (⟨"attemptId", "attempt_id"⟩, ofText? i.attemptId),
    (⟨"enrollmentId", "enrollment_id"⟩, ofText? i.enrollmentId)]

/-- Needs of the learner as a value. -/
def Accessibility.view (a : Accessibility ρ) : Value ρ :=
  record "Accessibility" [
    (⟨"captions", "captions"⟩, bool a.captions),
    (⟨"transcript", "transcript"⟩, bool a.transcript),
    (⟨"dyslexicFont", "dyslexic_font"⟩, ofFlag? a.dyslexicFont),
    (⟨"fontScale", "font_scale"⟩, ofNumber? a.fontScale),
    (⟨"highContrast", "high_contrast"⟩, ofFlag? a.highContrast)]

/-- A preference as a value. -/
def Preference.view (p : Preference ρ) : Value ρ :=
  record "Preference" [
    (⟨"value", "value"⟩, text p.value),
    (⟨"source", "source"⟩, ofWord p.source),
    (⟨"confidence", "confidence"⟩, ofNumber? p.confidence)]

/-- The preferences of a learner as a value. -/
def Preferences.view (p : Preferences ρ) : Value ρ :=
  record "UserPreferences" [
    (⟨"theme", "theme"⟩, ofOption Preference.view p.theme),
    (⟨"tone", "tone"⟩, ofOption Preference.view p.tone),
    (⟨"modalityBias", "modality_bias"⟩, ofOption Preference.view p.modalityBias)]

/-- The learner as a value. -/
def User.view (u : User ρ) : Value ρ :=
  record "UserContext" [
    (⟨"name", "name"⟩, ofText? u.name),
    (⟨"givenName", "given_name"⟩, ofText? u.givenName),
    (⟨"familyName", "family_name"⟩, ofText? u.familyName),
    (⟨"gender", "gender"⟩, ofWord? u.gender),
    (⟨"lang", "lang"⟩, ofWord u.lang),
    (⟨"a11Y", "a11y"⟩, u.accessibility.view),
    (⟨"preferences", "preferences"⟩, u.preferences.view)]

/-- The learner's device and connection as a value. -/
def Environment.view (e : Environment) : Value ρ :=
  record "Environment" [
    (⟨"device", "device"⟩, ofWord e.device),
    (⟨"online", "online"⟩, bool e.online),
    (⟨"netType", "net_type"⟩, ofWord? e.network),
    (⟨"timezone", "timezone"⟩, ofText? e.timezone)]

/-- Estimates of the mood as a value. -/
def Affect.view (a : Affect ρ) : Value ρ :=
  record "Affect" [
    (⟨"frustration", "frustration"⟩, ofNumber? a.frustration),
    (⟨"confidence", "confidence"⟩, ofNumber? a.confidence),
    (⟨"engagement", "engagement"⟩, ofNumber? a.engagement)]

/-- A sticky record as a value. -/
def StickyRecord.view (r : StickyRecord ρ) : Value ρ :=
  record "StickyRecord" [
    (⟨"variantId", "variant_id"⟩, text r.variantId),
    (⟨"at", "at"⟩, number r.time),
    (⟨"scope", "scope"⟩, ofWord r.scope),
    (⟨"ttlMs", "ttl_ms"⟩, ofNumber? r.ttlMs),
    (⟨"strength", "strength"⟩, ofWord r.strength),
    (⟨"reason", "reason"⟩, ofWord? r.reason)]

/-- A sticky entry as a value; what has not been read as a record is shown as it is. -/
def StickyEntry.view : StickyEntry ρ → Value ρ
  | record r => r.view
  | raw d    => ofData d

/-- Wishes as a value. -/
def SoftOverrides.view (s : SoftOverrides) : Value ρ :=
  record "SoftOverrides" [
    (⟨"preferredTheme", "preferred_theme"⟩, ofText? s.preferredTheme),
    (⟨"preferredTone", "preferred_tone"⟩, ofWord? s.preferredTone)]

/-- Overrides as a value. -/
def Overrides.view (o : Overrides ρ) : Value ρ :=
  record "Overrides" [
    (⟨"forceVariant", "force_variant"⟩, ofKeyed text o.forceVariant),
    (⟨"forceDifficulty", "force_difficulty"⟩, ofWord? o.forceDifficulty),
    (⟨"forceTheme", "force_theme"⟩, ofText? o.forceTheme),
    (⟨"disableHints", "disable_hints"⟩, ofFlag? o.disableHints),
    (⟨"soft", "soft"⟩, ofOption SoftOverrides.view o.soft),
    (⟨"source", "source"⟩, ofWord? o.source),
    (⟨"expiresAt", "expires_at"⟩, ofNumber? o.expiresAt)]

/-- A trace event as a value. -/
def TraceEvent.view (e : TraceEvent ρ) : Value ρ :=
  record "TraceEvent" [
    (⟨"type", "type"⟩, text e.type),
    (⟨"ts", "ts"⟩, number e.ts),
    (⟨"data", "data"⟩, ofOption (fun m => object (ofEntries m)) e.data)]

variable [Scalar ρ]

/-- Metrics as a value. -/
def Metrics.view (m : Metrics ρ) : Value ρ :=
  record "Metrics" [
    (⟨"accEWMA", "acc_ewma"⟩, number m.accuracy),
    (⟨"latencyEWMA", "latency_ewma"⟩, number m.latency),
    (⟨"idleSec", "idle_sec"⟩, number m.idleSec),
    (⟨"streak", "streak"⟩, ofInt m.streak),
    (⟨"fatigue", "fatigue"⟩, number m.fatigue),
    (⟨"affect", "affect"⟩, ofOption Affect.view m.affect),
    (⟨"attempts", "attempts"⟩, ofInt m.attempts)]

/-- Performance on a skill as a value. -/
def SkillStats.view (s : SkillStats ρ) : Value ρ :=
  record "SkillStats" [
    (⟨"accEWMA", "acc_ewma"⟩, number s.accuracy),
    (⟨"attempts", "attempts"⟩, ofInt s.attempts),
    (⟨"lastTs", "last_ts"⟩, number s.lastTs),
    (⟨"difficultyGap", "difficulty_gap"⟩, ofNumber? s.difficultyGap)]

/-- Limits of a policy as a value. -/
def PolicyCaps.view (c : PolicyCaps) : Value ρ :=
  record "PolicyCaps" [
    (⟨"hintPerSession", "hint_per_session"⟩, ofOption ofInt c.hintPerSession)]

/-- The known policy as a value. -/
def PolicyInfo.view (p : PolicyInfo) : Value ρ :=
  record "PolicyInfo" [
    (⟨"version", "version"⟩, text p.version),
    (⟨"caps", "caps"⟩, ofOption PolicyCaps.view p.caps),
    (⟨"hash", "hash"⟩, ofText? p.hash)]

/-- A session as a value. -/
def Session.view (s : Session ρ) : Value ρ :=
  record "SessionState" [
    (⟨"ids", "ids"⟩, s.ids.view),
    (⟨"user", "user"⟩, s.user.view),
    (⟨"env", "env"⟩, s.env.view),
    (⟨"metrics", "metrics"⟩, s.metrics.view),
    (⟨"perSkill", "per_skill"⟩, ofKeyed SkillStats.view s.perSkill),
    (⟨"sticky", "sticky"⟩, ofKeyed StickyEntry.view s.sticky),
    (⟨"overrides", "overrides"⟩, ofOption Overrides.view s.overrides),
    (⟨"seenVariants", "seen_variants"⟩, ofKeyed ofTexts s.seenVariants),
    (⟨"policy", "policy"⟩, s.policy.view),
    (⟨"trace", "trace"⟩, ofList TraceEvent.view s.trace)]

/-- A session as it is written on the wire. -/
def Session.toData (s : Session ρ) : Data ρ :=
  s.view.toData

end LessonVariants
