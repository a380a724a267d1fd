import LessonVariants.Session.Read
import LessonVariants.Settings.Basic

/-! # Opening sessions

    A session is opened from partial data merged over the defaults: what the data does not say
    comes from the settings and from the initial values of the records.  The data may also be
    given as a list of pairs. -/

namespace LessonVariants

/-- Why no session could be opened: data that has no entries, data whose entries are broken, or
    entries with issues. -/
inductive CreateError where
  | noEntries
  | brokenEntries
  | issues (is : List Issue)
  deriving DecidableEq, Repr

variable {ρ : Type} [WireScalar ρ]

/-- An item of a list as an entry.  A key that is no text leads to nothing; a list or an object is
    no key. -/
def Data.pair? : Data ρ → Except CreateError (Option (String × Data ρ))
  | .list [.text k, v]           => .ok (some (k, v))
  | .list [.list _, _]           => .error .noEntries
  | .list [.object _, _]         => .error .noEntries
  | .list [_, _]                 => .ok none
  | .list _                      => .error .brokenEntries
  | .object [(k, _), (l, _)]     => .ok (some (k, .text l))
  | .object _                    => .error .brokenEntries
  | .text s =>
      match s.toList with
      | [a, b] => .ok (some (a.toString, .text b.toString))
      | _      => .error .brokenEntries
  | _ => .error .noEntries

/-- The entries of data: of an object, of a list of pairs, or none if the data is void. -/
def Data.entries? (d : Data ρ) : Except CreateError (Keyed (Data ρ)) :=
  if d.isVoid then .ok []
  else
    match d with
    | .object m => .ok m
    | .list xs  => (xs.mapM Data.pair?).map fun ps => Keyed.ofEntries (ps.filterMap id)
    | .text _   => .error .brokenEntries
    | _         => .error .noEntries

namespace Session

/-- Partial session entries completed by what the settings prescribe for new sessions. -/
def withDefaults (settings : Settings ρ) (data user env : Keyed (Data ρ)) : Keyed (Data ρ) :=
  let user := user.insertIfNew "lang" (.text (Vocabulary.label settings.language))
  let env := env.insertIfNew "device" (.text (Vocabulary.label settings.device))
  let data := (data.insert "user" (.object user)).insert "env" (.object env)
  let policy : Data ρ := .object [("version", .text settings.policyVersion)]
  match data.get? "policy" with
  | none       => data.insert "policy" policy
  | some .null => data.insert "policy" policy
  | some _     => data

/-- Opens a session from partial data. -/
def create (settings : Settings ρ) (init : Data ρ) : Except CreateError (Session ρ) := do
  let data ← init.entries?
  let user ← ((data.get? "user").getD .null).entries?
  let env ← ((data.get? "env").getD .null).entries?
  match read (withDefaults settings data user env) with
  | .ok s      => pure s
  | .faulty is => .error (.issues is)

end Session

end LessonVariants
