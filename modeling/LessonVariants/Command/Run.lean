import LessonVariants.Command.Arguments
import LessonVariants.Command.Table
import LessonVariants.Command.Workspace
import LessonVariants.Guard.Template
import LessonVariants.Json.Reader
import LessonVariants.Json.Writer
import LessonVariants.Selection
import LessonVariants.Session.Create
import LessonVariants.Session.View
import LessonVariants.Slot.Read
import LessonVariants.Text.Lines

/-! # Running commands

    A command turns the texts of files into a report: a table, lines, a result, possibly a file to
    be written, and the exit code.  What it failed with, if it did, stands beside what was reported
    before. -/

namespace LessonVariants

/-- What a command failed with beyond what its report says. -/
inductive CommandFailure where
  | opening (e : CreateError)
  | selection (e : SelectionError Number)
  | guard (m : Malformed)
  | oversizedInteger
  | tooDeep
  | markup (e : MarkupError)
  | file (e : FileError)
  | nullCharacter

/-- What a command reports. -/
structure CommandReport where
  exitCode : Nat                        := 0
  table?   : Option ShownTable          := none
  lines    : List String                := []
  result?  : Option (Data Number)       := none
  written? : Option (String × Data Number) := none
  failure? : Option CommandFailure      := none

namespace CommandReport

/-- A report of a failure. -/
def failed (f : CommandFailure) : CommandReport :=
  { exitCode := 1, failure? := some f }

/-- A report of texts with markup, one after the other.  The first one that cannot be shown ends the
    report. -/
def ofTexts (exitCode : Nat) : List String → CommandReport
  | []      => { exitCode := exitCode }
  | t :: ts =>
      match Markup.shown t with
      | .error e => failed (.markup e)
      | .ok cs   =>
          let rest := ofTexts exitCode ts
          { rest with lines := (unwrapped cs).map String.ofList ++ rest.lines }

/-- A report of a table. -/
def ofTable (t : Table) : CommandReport :=
  match t.shown with
  | .ok t    => { table? := some t }
  | .error e => failed (.markup e)

end CommandReport

/-- The JSON data in a file; the error is a report. -/
def loadData (w : Workspace) (path : String) : Except CommandReport (Data Number) :=
  let path := normalPath path
  let unreadable := fun reason =>
    Except.error (CommandReport.ofTexts 2 ["[red]Cannot read " ++ path ++ ":[/red] " ++ reason])
  match w.read path with
  | .error e => unreadable (e.message path)
  | .ok text =>
      let cs := withLineFeeds text.toList
      match Json.document cs with
      | .ok d       => .ok d
      | .error stop =>
          match stop.fault with
          | .oversizedInteger => .error (.failed .oversizedInteger)
          | .tooDeep          => .error (.failed .tooDeep)
          | _                 => unreadable (Json.describe cs stop)

/-- A checked value, or a report of its issues. -/
def orReport {α : Type} : Checked α → Except CommandReport α
  | .ok a      => .ok a
  | .faulty is => .error (.failed (.opening (.issues is)))

/-- The row of a variant in the table of a dry run. -/
def variantRow (r : SelectionResult Number) (v : Variant Number) : List String :=
  let guard := match r.why.guards.get? v.id with
    | none       => "-"
    | some true  => "pass"
    | some false => "fail"
  let score := match r.why.score.get? v.id with
    | none   => "-"
    | some x => fixedText 3 x.toFloat
  [v.id, guard, score, if v.id = r.variantId then "✓" else ""]

/-- Writes the session where a report asks for it. -/
def CommandReport.withSession (w : Workspace) (r : CommandReport) (target : Option String)
    (after : Session Number) : CommandReport :=
  match target.map normalPath with
  | none      => r
  | some path =>
      match w.write path with
      | none   => { r with written? := some (path, after.toData) }
      | some e => { r with exitCode := 1, failure? := some (.file e) }

/-- The report of a selection that came out. -/
def selectionReport (w : Workspace) (a : SelectArguments) (slot : Slot Number)
    (r : SelectionResult Number) (after : Session Number) : CommandReport :=
  let table := CommandReport.ofTable
    ⟨"Slot " ++ slot.id, ["Variant", "Guard", "Score", "Chosen"], slot.variants.map (variantRow r)⟩
  if table.failure?.isSome then table
  else
    let chosen := CommandReport.ofTexts 0 ["[bold]Selected:[/bold] " ++ r.variantId]
    let report := { chosen with table? := table.table? }
    if report.failure?.isSome then report
    else { report with result? := some r.view.toData }.withSession w a.writeTo after

/-- A dry run of a selection, in the room of the caller. -/
def runSelect (room : Room) (w : Workspace) (settings : Checked (Settings Number)) (now : Number)
    (a : SelectArguments) : Except CommandReport CommandReport := do
  let slot ← orReport (Read.record Slot.read (← loadData w a.slotFile))
  let init ← loadData w a.sessionFile
  let settings ← orReport settings
  let session ← (Session.create settings init).mapError fun e => CommandReport.failed (.opening e)
  let policy ← match a.policyFile with
    | none      => pure { version := session.policy.version }
    | some path => orReport (Read.record Policy.read (← loadData w path))
  match (select settings (GuardCache.judge room) slot session policy a.trace now {}).1 with
  | .ok (r, after) => pure (selectionReport w a slot r after)
  | .error e =>
      match e.message? with
      | some m => pure (.ofTexts 1 ["[red]✗ " ++ m ++ "[/red]"])
      | none   => pure (.failed (.selection e))

/-- The report of a check of guard text, in the room of the caller. -/
def runCheck (room : Room) (expression : String) : CommandReport :=
  match checkGuard room.parsing expression with
  | .ok .valid            => .ofTexts 0 ["[bold green]✓ Valid guard[/bold green]"]
  | .ok (.invalid reason) => .ofTexts 1
      ["[red]✗ Invalid guard:[/red] " ++ reason,
       "  Unparseable guards evaluate to false and hide their variant."]
  | .error m              => .failed (.guard m)

/-- The paths among the arguments of a dry run. -/
def SelectArguments.paths (a : SelectArguments) : List String :=
  [a.slotFile, a.sessionFile] ++ a.policyFile.toList ++ a.writeTo.toList

/-- The report of a command, given the room of the caller, the files it can see, the settings and the
    time. -/
def Command.run (room : Room) (w : Workspace) (settings : Checked (Settings Number)) (now : Number) :
    Command → CommandReport
  | .select a     =>
      if a.paths.any (·.contains '\x00') then .failed .nullCharacter
      else
        match runSelect room w settings now a with
        | .ok r    => r
        | .error r => r
  | .checkGuard e => runCheck room e
  | .templates    =>
      .ofTable ⟨"Guard Templates", ["Name", "Expression"], guardTemplates.map fun e => [e.1, e.2]⟩

end LessonVariants
