import LessonVariants.Session.Basic
import LessonVariants.Wire.Checked

/-! # Reading sessions

    The records of a session, read from the entries of objects.  A field is found under its wire
    name or its internal name; unknown fields are passed over. -/

namespace LessonVariants

open Read

variable {ρ : Type} [WireScalar ρ]

/-- Identity keys. -/
def SessionIds.read (m : Keyed (Data ρ)) : Checked SessionIds :=
  SessionIds.mk
    <$> field m ⟨"userId", "user_id"⟩ "" text
    <*> field m ⟨"courseId", "course_id"⟩ "" text
    <*> optional m ⟨"trackId", "track_id"⟩ text
    <*> field m ⟨"lessonId", "lesson_id"⟩ "" text
    <*> field m ⟨"pageId", "page_id"⟩ "" text
    <*> optional m ⟨"attemptId", "attempt_id"⟩ text
    <*> optional m ⟨"enrollmentId", "enrollment_id"⟩ text

/-- Needs of the learner. -/
def Accessibility.read (m : Keyed (Data ρ)) : Checked (Accessibility ρ) :=
  Accessibility.mk
    <$> field m ⟨"captions", "captions"⟩ true flag
    <*> field m ⟨"transcript", "transcript"⟩ false flag
    <*> optional m ⟨"dyslexicFont", "dyslexic_font"⟩ flag
    <*> optional m ⟨"fontScale", "font_scale"⟩ real
    <*> optional m ⟨"highContrast", "high_contrast"⟩ flag

/-- A preference. -/
def Preference.read (m : Keyed (Data ρ)) : Checked (Preference ρ) :=
  Preference.mk
    <$> required m ⟨"value", "value"⟩ text
    <*> field m ⟨"source", "source"⟩ .student word
    <*> optional m ⟨"confidence", "confidence"⟩ real

/-- The preferences of a learner. -/
def Preferences.read (m : Keyed (Data ρ)) : Checked (Preferences ρ) :=
  Preferences.mk
    <$> optional m ⟨"theme", "theme"⟩ (record Preference.read)
    <*> optional m ⟨"tone", "tone"⟩ (record Preference.read)
    <*> optional m ⟨"modalityBias", "modality_bias"⟩ (record Preference.read)

/-- The learner. -/
def User.read (m : Keyed (Data ρ)) : Checked (User ρ) :=
  User.mk
    <$> optional m ⟨"name", "name"⟩ text
    <*> optional m ⟨"givenName", "given_name"⟩ text
    <*> optional m ⟨"familyName", "family_name"⟩ text
    <*> optional m ⟨"gender", "gender"⟩ word
    <*> field m ⟨"lang", "lang"⟩ .he word
    <*> field m ⟨"a11Y", "a11y"⟩ {} (record Accessibility.read)
    <*> field m ⟨"preferences", "preferences"⟩ {} (record Preferences.read)

/-- The learner's device and connection. -/
def Environment.read (m : Keyed (Data ρ)) : Checked Environment :=
  Environment.mk
    <$> field m ⟨"device", "device"⟩ .desktop word
    <*> field m ⟨"online", "online"⟩ true flag
    <*> optional m ⟨"netType", "net_type"⟩ word
    <*> optional m ⟨"timezone", "timezone"⟩ text

/-- Estimates of the mood. -/
def Affect.read (m : Keyed (Data ρ)) : Checked (Affect ρ) :=
  Affect.mk
    <$> optional m ⟨"frustration", "frustration"⟩ real
    <*> optional m ⟨"confidence", "confidence"⟩ real
    <*> optional m ⟨"engagement", "engagement"⟩ real

/-- Metrics; those left out have their initial values. -/
def Metrics.read (m : Keyed (Data ρ)) : Checked (Metrics ρ) :=
  Metrics.mk
    <$> field m ⟨"accEWMA", "acc_ewma"⟩ Metrics.initial.accuracy real
    <*> field m ⟨"latencyEWMA", "latency_ewma"⟩ Metrics.initial.latency real
    <*> field m ⟨"idleSec", "idle_sec"⟩ Metrics.initial.idleSec real
    <*> field m ⟨"streak", "streak"⟩ 0 integer
    <*> field m ⟨"fatigue", "fatigue"⟩ Metrics.initial.fatigue real
    <*> optional m ⟨"affect", "affect"⟩ (record Affect.read)
    <*> field m ⟨"attempts", "attempts"⟩ 0 integer

/-- Performance on a skill. -/
def SkillStats.read (m : Keyed (Data ρ)) : Checked (SkillStats ρ) :=
  SkillStats.mk
    <$> field m ⟨"accEWMA", "acc_ewma"⟩ SkillStats.initial.accuracy real
    <*> field m ⟨"attempts", "attempts"⟩ 0 integer
    <*> field m ⟨"lastTs", "last_ts"⟩ SkillStats.initial.lastTs real
    <*> optional m ⟨"difficultyGap", "difficulty_gap"⟩ real

/-- A sticky record. -/
def StickyRecord.read (m : Keyed (Data ρ)) : Checked (StickyRecord ρ) :=
  StickyRecord.mk
    <$> required m ⟨"variantId", "variant_id"⟩ text
    <*> required m ⟨"at", "at"⟩ real
    <*> field m ⟨"scope", "scope"⟩ .lesson word
    <*> optional m ⟨"ttlMs", "ttl_ms"⟩ real
    <*> field m ⟨"strength", "strength"⟩ .weak word
    <*> optional m ⟨"reason", "reason"⟩ word

/-- The record that a sticky entry holds or can be read as. -/
def StickyEntry.record? : StickyEntry ρ → Option (StickyRecord ρ)
  | record r => some r
  | raw d    => (Read.record StickyRecord.read d).value?

/-- A sticky entry as a session keeps it after reading: a record, or null if it is none. -/
def StickyEntry.ofData (d : Data ρ) : StickyEntry ρ :=
  match (Read.record StickyRecord.read d).value? with
  | some r => record r
  | none   => raw .null

/-- The sticky entries of a session.  Corrupt data never stands in the way: what is no object
    holds no entries, and an entry that is no record is kept as null. -/
def StickyEntry.readAll : Data ρ → Keyed (StickyEntry ρ)
  | .object m => Keyed.ofEntries (m.map fun e => (e.1, ofData e.2))
  | _         => []

/-- Wishes. -/
def SoftOverrides.read (m : Keyed (Data ρ)) : Checked SoftOverrides :=
  SoftOverrides.mk
    <$> optional m ⟨"preferredTheme", "preferred_theme"⟩ text
    <*> optional m ⟨"preferredTone", "preferred_tone"⟩ word

/-- Overrides. -/
def Overrides.read (m : Keyed (Data ρ)) : Checked (Overrides ρ) :=
  Overrides.mk
    <$> field m ⟨"forceVariant", "force_variant"⟩ [] (keyed text)
    <*> optional m ⟨"forceDifficulty", "force_difficulty"⟩ word
    <*> optional m ⟨"forceTheme", "force_theme"⟩ text
    <*> optional m ⟨"disableHints", "disable_hints"⟩ flag
    <*> optional m ⟨"soft", "soft"⟩ (record SoftOverrides.read)
    <*> optional m ⟨"source", "source"⟩ word
    <*> optional m ⟨"expiresAt", "expires_at"⟩ real

/-- Limits of a policy. -/
def PolicyCaps.read (m : Keyed (Data ρ)) : Checked PolicyCaps :=
  PolicyCaps.mk <$> optional m ⟨"hintPerSession", "hint_per_session"⟩ integer

/-- The known policy. -/
def PolicyInfo.read (m : Keyed (Data ρ)) : Checked PolicyInfo :=
  PolicyInfo.mk
    <$> field m ⟨"version", "version"⟩ "dev" text
    <*> optional m ⟨"caps", "caps"⟩ (record PolicyCaps.read)
    <*> optional m ⟨"hash", "hash"⟩ text

/-- A trace event. -/
def TraceEvent.read (m : Keyed (Data ρ)) : Checked (TraceEvent ρ) :=
  TraceEvent.mk
    <$> required m ⟨"type", "type"⟩ text
    <*> required m ⟨"ts", "ts"⟩ real
    <*> optional m ⟨"data", "data"⟩ freeForm

/-- A session. -/
def Session.read (m : Keyed (Data ρ)) : Checked (Session ρ) :=
  Session.mk
    <$> field m ⟨"ids", "ids"⟩ {} (record SessionIds.read)
    <*> field m ⟨"user", "user"⟩ {} (record User.read)
    <*> field m ⟨"env", "env"⟩ {} (record Environment.read)
    <*> field m ⟨"metrics", "metrics"⟩ Metrics.initial (record Metrics.read)
    <*> field m ⟨"perSkill", "per_skill"⟩ [] (keyed (record SkillStats.read))
    <*> field m ⟨"sticky", "sticky"⟩ [] (fun d => .ok (StickyEntry.readAll d))
    <*> optional m ⟨"overrides", "overrides"⟩ (record Overrides.read)
    <*> field m ⟨"seenVariants", "seen_variants"⟩ [] (keyed (list text))
    <*> field m ⟨"policy", "policy"⟩ {} (record PolicyInfo.read)
    <*> field m ⟨"trace", "trace"⟩ [] (list (record TraceEvent.read))

end LessonVariants
