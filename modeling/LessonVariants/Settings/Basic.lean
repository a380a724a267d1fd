import LessonVariants.Settings.EnvFile
import LessonVariants.Text.Case
import LessonVariants.Wire.Checked

/-! # Settings

    The engine's tunable values.  Each comes from the first source that has it: the caller's
    arguments, the variables of the environment, those of a file, and last its default. -/

namespace LessonVariants

/-- The settings of the engine. -/
structure Settings (ρ : Type) where
  alpha               : ρ
  latencyMin          : ρ
  latencyMax          : ρ
  language            : Language := .he
  device              : Device   := .desktop
  policyVersion       : String   := "dev"
  stickyStrength      : Strength := .weak
  stickyScope         : Scope    := .lesson
  traceByDefault      : Bool     := false
  honorOverrideExpiry : Bool     := true

namespace Settings

variable {ρ : Type}

/-- The settings of an engine that nobody configured. -/
def default [Scalar ρ] : Settings ρ where
  alpha      := Scalar.ofDecimal ⟨8, -1⟩
  latencyMin := Scalar.ofDecimal ⟨300, 0⟩
  latencyMax := Scalar.ofDecimal ⟨8000, 0⟩

/-- Whether a smoothing weight lies between zero and one; an undefined one is too large. -/
def checkAlpha [Scalar ρ] (a : ρ) : Option Fault :=
  if !Scalar.le a (Scalar.ofInt 1) then some .tooLarge
  else if !Scalar.le (Scalar.ofInt 0) a then some .tooSmall
  else none

/-- Settings from entries under their own names. -/
def read [WireScalar ρ] (m : Keyed (Data ρ)) : Checked (Settings ρ) :=
  let own := fun s => FieldName.mk s s
  Settings.mk
    <$> Read.field m (own "ewma_alpha") default.alpha (fun d => (Read.real d).andAlso checkAlpha)
    <*> Read.field m (own "latency_clip_min_ms") default.latencyMin Read.real
    <*> Read.field m (own "latency_clip_max_ms") default.latencyMax Read.real
    <*> Read.field m (own "default_lang") .he Read.word
    <*> Read.field m (own "default_device") .desktop Read.word
    <*> Read.field m (own "default_policy_version") "dev" Read.text
    <*> Read.field m (own "sticky_default_strength") .weak Read.word
    <*> Read.field m (own "sticky_default_scope") .lesson Read.word
    <*> Read.field m (own "trace_by_default") false Read.flag
    <*> Read.field m (own "honor_override_expiry") true Read.flag

/-- What the names of the engine's variables start with, in any case of letters. -/
def variableStart : String := "adaptivity_"

/-- The setting that a variable stands for. -/
def ofVariable? (name : String) : Option String :=
  let name := (lowerText name).toList
  if variableStart.toList.isPrefixOf name then
    some (String.ofList (name.drop variableStart.length))
  else none

/-- The values of the engine's variables, under the names of their settings. -/
def fromVariables (vars : Keyed (Option String)) : Keyed (Data ρ) :=
  let named : Keyed (Option String) :=
    Keyed.ofEntries (vars.filterMap fun e => (ofVariable? e.1).map fun setting => (setting, e.2))
  named.filterMap fun e => e.2.map fun v => (e.1, .text v)

/-- The variables of an environment that belong to the engine. -/
def ownVariables (environment : Keyed String) : Keyed String :=
  environment.keep fun name _ => (ofVariable? name).isSome

/-- Settings from all sources. -/
def ofSources [WireScalar ρ] (arguments : Keyed (Data ρ)) (environment : Keyed String)
    (file : String) : Checked (Settings ρ) :=
  let own := ownVariables environment
  read (arguments ++ (fromVariables (own.map fun e => (e.1, some e.2)) ++
    fromVariables (EnvFile.assignments own file)))

end Settings

end LessonVariants
