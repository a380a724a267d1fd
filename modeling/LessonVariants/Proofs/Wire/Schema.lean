import LessonVariants.Slot.View

/-! # Schemas of the engine's records

    A record is declared by the internal names of its fields; the names on the wire follow from them
    (`camelCase`), but for two fields that are declared with a wire name of their own.  A schema says
    for each place of a written value whether a record stands there, a map, a list or plain data
    (`Schema`).

    Reading and showing write both names of a field out.  They agree with the declarations: the
    fields that each view shows are those of its schema. -/

namespace LessonVariants

/-! ## Names on the wire -/

/-- The characters of an internal name without underscores, where a letter is a capital if no letter
    stands right before it. -/
def camelChars : Bool → List Char → List Char
  | _,       []        => []
  | _,       '_' :: cs => camelChars true cs
  | capital, c :: cs   => (if capital then c.toUpper else c) :: camelChars (!c.isAlpha) cs

/-- The name on the wire that follows from an internal name. -/
def camelCase (internal : String) : String :=
  String.ofList (camelChars false internal.toList)

example : camelCase "user_id" = "userId" ∧ camelCase "a11y" = "a11Y" := by decide

/-- What stands at a place of a written value: data that no record is read from, a record with
    declared fields, or a map or a list with values of one kind. -/
inductive Schema where
  | plain
  | record (fields : List (FieldName × Schema))
  | map (values : Schema)
  | list (items : Schema)

namespace Schema

/-- The declared fields of a record. -/
def fields : Schema → List (FieldName × Schema)
  | record fields => fields
  | _             => []

/-- A declared field, whose wire name follows from the internal one. -/
def field (internal : String) (schema : Schema := plain) : FieldName × Schema :=
  (⟨camelCase internal, internal⟩, schema)

/-- A declared field with plain data under a wire name of its own. -/
def aliased (internal wire : String) : FieldName × Schema :=
  (⟨wire, internal⟩, plain)

end Schema

open Schema

/-! ## Records of a session -/

def SessionIds.schema : Schema :=
  .record [field "user_id", field "course_id", field "track_id", field "lesson_id", field "page_id",
    field "attempt_id", field "enrollment_id"]

def Accessibility.schema : Schema :=
  .record [field "captions", field "transcript", field "dyslexic_font", field "font_scale",
    field "high_contrast"]

def Preference.schema : Schema :=
  .record [field "value", field "source", field "confidence"]

def Preferences.schema : Schema :=
  .record [field "theme" Preference.schema, field "tone" Preference.schema,
    field "modality_bias" Preference.schema]

def User.schema : Schema :=
  .record [field "name", field "given_name", field "family_name", field "gender", field "lang",
    field "a11y" Accessibility.schema, field "preferences" Preferences.schema]

def Environment.schema : Schema :=
  .record [field "device", field "online", field "net_type", field "timezone"]

def Affect.schema : Schema :=
  .record [field "frustration", field "confidence", field "engagement"]

def Metrics.schema : Schema :=
  .record [aliased "acc_ewma" "accEWMA", aliased "latency_ewma" "latencyEWMA", field "idle_sec",
    field "streak", field "fatigue", field "affect" Affect.schema, field "attempts"]

def SkillStats.schema : Schema :=
  .record [aliased "acc_ewma" "accEWMA", field "attempts", field "last_ts", field "difficulty_gap"]

def StickyRecord.schema : Schema :=
  .record [field "variant_id", field "at", field "scope", field "ttl_ms", field "strength",
    field "reason"]

def SoftOverrides.schema : Schema :=
  .record [field "preferred_theme", field "preferred_tone"]

def Overrides.schema : Schema :=
  .record [field "force_variant" (.map .plain), field "force_difficulty", field "force_theme",
    field "disable_hints", field "soft" SoftOverrides.schema, field "source", field "expires_at"]

def PolicyCaps.schema : Schema :=
  .record [field "hint_per_session"]

def PolicyInfo.schema : Schema :=
  .record [field "version", field "caps" PolicyCaps.schema, field "hash"]

def TraceEvent.schema : Schema :=
  .record [field "type", field "ts", field "data"]

/-- What stands where in a written session. -/
def Session.schema : Schema :=
  .record [field "ids" SessionIds.schema, field "user" User.schema, field "env" Environment.schema,
    field "metrics" Metrics.schema, field "per_skill" (.map SkillStats.schema),
    field "sticky" (.map StickyRecord.schema), field "overrides" Overrides.schema,
    field "seen_variants" (.map (.list .plain)), field "policy" PolicyInfo.schema,
    field "trace" (.list TraceEvent.schema)]

/-! ## Records of a variant -/

def VariantAccessibility.schema : Schema :=
  .record [field "captions", field "transcript", field "dyslexic_font"]

def VariantMeta.schema : Schema :=
  .record [field "difficulty", field "modality", field "language", field "duration_sec",
    field "theme", field "cognitive_load", field "device_fit" (.list .plain),
    field "accessibility" VariantAccessibility.schema, field "skills" (.list .plain),
    field "knowledge_tag", field "prerequisites" (.list .plain), field "track"]

def ScoreWeights.schema : Schema :=
  .record [field "prefer_low_acc", field "prefer_theme_match",
    field "prefer_modality" (.map .plain)]

def StickyConfig.schema : Schema :=
  .record [field "scope", field "strength"]

/-- What stands where in a written variant. -/
def Variant.schema : Schema :=
  .record [field "id", field "meta" VariantMeta.schema, field "guard",
    field "score_weights" ScoreWeights.schema, field "sticky" StickyConfig.schema]

end LessonVariants
