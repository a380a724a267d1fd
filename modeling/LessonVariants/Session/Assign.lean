import LessonVariants.Session.Basic

/-! # Assigning fields

    A field takes data that is of the field's own type as it stands.  Nothing is converted here:
    text is no number, a truth value is no number either, and a field that holds a record takes no
    object in its place.  `Session.assign?` says nothing where the data does not fit. -/

namespace LessonVariants

/-- Types whose values data may be as it stands. -/
class OfDatum (α : Type) where
  ofDatum? : Data Number → Option α

open OfDatum (ofDatum?)

instance : OfDatum String where
  ofDatum?
    | .text s => some s
    | _       => none

instance : OfDatum Bool where
  ofDatum?
    | .bool b => some b
    | _       => none

instance : OfDatum Number where
  ofDatum?
    | .number n => some n
    | _         => none

instance : OfDatum Int where
  ofDatum?
    | .number (.int i) => some i
    | _                => none

instance {α : Type} [OfDatum α] : OfDatum (Option α) where
  ofDatum?
    | .null => some none
    | d     => (ofDatum? d).map some

instance {α : Type} [OfDatum α] : OfDatum (List α) where
  ofDatum?
    | .list ds => ds.mapM ofDatum?
    | _        => none

instance {α : Type} [OfDatum α] : OfDatum (Keyed α) where
  ofDatum?
    | .object m => m.mapM fun e => (ofDatum? e.2).map fun a => (e.1, a)
    | _         => none

/-- A value of a closed vocabulary is given by its label. -/
def wordOfDatum? {α : Type} [Vocabulary α] (d : Data Number) : Option α :=
  (ofDatum? d : Option String).bind Vocabulary.ofLabel?

instance : OfDatum Language := ⟨wordOfDatum?⟩
instance : OfDatum Gender := ⟨wordOfDatum?⟩
instance : OfDatum Device := ⟨wordOfDatum?⟩
instance : OfDatum Network := ⟨wordOfDatum?⟩
instance : OfDatum Difficulty := ⟨wordOfDatum?⟩
instance : OfDatum Authority := ⟨wordOfDatum?⟩

/-- An optional record can be taken away and not be put in. -/
def noneOfDatum? {α : Type} : Data Number → Option (Option α)
  | .null => some none
  | _     => none

/-- Identity keys with one field assigned. -/
def SessionIds.assign? (i : SessionIds) (field : String) (d : Data Number) : Option SessionIds :=
  match field with
  | "user_id"       => (ofDatum? d).map fun a => { i with userId := a }
  | "course_id"     => (ofDatum? d).map fun a => { i with courseId := a }
  | "track_id"      => (ofDatum? d).map fun a => { i with trackId := a }
  | "lesson_id"     => (ofDatum? d).map fun a => { i with lessonId := a }
  | "page_id"       => (ofDatum? d).map fun a => { i with pageId := a }
  | "attempt_id"    => (ofDatum? d).map fun a => { i with attemptId := a }
  | "enrollment_id" => (ofDatum? d).map fun a => { i with enrollmentId := a }
  | _               => none

/-- A learner with one field assigned. -/
def User.assign? (u : User Number) (field : String) (d : Data Number) : Option (User Number) :=
  match field with
  | "name"        => (ofDatum? d).map fun a => { u with name := a }
  | "given_name"  => (ofDatum? d).map fun a => { u with givenName := a }
  | "family_name" => (ofDatum? d).map fun a => { u with familyName := a }
  | "gender"      => (ofDatum? d).map fun a => { u with gender := a }
  | "lang"        => (ofDatum? d).map fun a => { u with lang := a }
  | _             => none

/-- A device and its connection with one field assigned. -/
def Environment.assign? (e : Environment) (field : String) (d : Data Number) :
    Option Environment :=
  match field with
  | "device"   => (ofDatum? d).map fun a => { e with device := a }
  | "online"   => (ofDatum? d).map fun a => { e with online := a }
  | "net_type" => (ofDatum? d).map fun a => { e with network := a }
  | "timezone" => (ofDatum? d).map fun a => { e with timezone := a }
  | _          => none

/-- Metrics with one field assigned. -/
def Metrics.assign? (m : Metrics Number) (field : String) (d : Data Number) :
    Option (Metrics Number) :=
  match field with
  | "acc_ewma"     => (ofDatum? d).map fun a => { m with accuracy := a }
  | "latency_ewma" => (ofDatum? d).map fun a => { m with latency := a }
  | "idle_sec"     => (ofDatum? d).map fun a => { m with idleSec := a }
  | "streak"       => (ofDatum? d).map fun a => { m with streak := a }
  | "fatigue"      => (ofDatum? d).map fun a => { m with fatigue := a }
  | "affect"       => (noneOfDatum? d).map fun a => { m with affect := a }
  | "attempts"     => (ofDatum? d).map fun a => { m with attempts := a }
  | _              => none

/-- Overrides with one field assigned. -/
def Overrides.assign? (o : Overrides Number) (field : String) (d : Data Number) :
    Option (Overrides Number) :=
  match field with
  | "force_variant"    => (ofDatum? d).map fun a => { o with forceVariant := a }
  | "force_difficulty" => (ofDatum? d).map fun a => { o with forceDifficulty := a }
  | "force_theme"      => (ofDatum? d).map fun a => { o with forceTheme := a }
  | "disable_hints"    => (ofDatum? d).map fun a => { o with disableHints := a }
  | "soft"             => (noneOfDatum? d).map fun a => { o with soft := a }
  | "source"           => (ofDatum? d).map fun a => { o with source := a }
  | "expires_at"       => (ofDatum? d).map fun a => { o with expiresAt := a }
  | _                  => none

/-- A known policy with one field assigned. -/
def PolicyInfo.assign? (p : PolicyInfo) (field : String) (d : Data Number) : Option PolicyInfo :=
  match field with
  | "version" => (ofDatum? d).map fun a => { p with version := a }
  | "caps"    => (noneOfDatum? d).map fun a => { p with caps := a }
  | "hash"    => (ofDatum? d).map fun a => { p with hash := a }
  | _         => none

/-- A session with one field of one of its records assigned; both go by their internal names. -/
def Session.assign? (s : Session Number) (part field : String) (d : Data Number) :
    Option (Session Number) :=
  match part with
  | "ids"     => (s.ids.assign? field d).map fun a => { s with ids := a }
  | "user"    => (s.user.assign? field d).map fun a => { s with user := a }
  | "env"     => (s.env.assign? field d).map fun a => { s with env := a }
  | "metrics" => (s.metrics.assign? field d).map fun a => { s with metrics := a }
  | "policy"  => (s.policy.assign? field d).map fun a => { s with policy := a }
  | "overrides" => do
      let o ← (← s.overrides).assign? field d
      return { s with overrides := some o }
  | _ => none

end LessonVariants
