import LessonVariants.Command.Run
import Std.Time.DateTime.Timestamp

/-! # The program

    Reads the files that a command needs, runs it, and prints its report. -/

namespace LessonVariants.Program

/-- How the program is used. -/
def usage : String :=
  "usage: lesson-variants [-v] COMMAND\n\n" ++
  "  select SLOT SESSION [-p|--policy FILE] [--trace|--no-trace] [--write-session FILE]\n" ++
  "  validate-guard EXPRESSION\n" ++
  "  templates"

/-- The variables that settings can come from. -/
def variableNames : List String :=
  ["EWMA_ALPHA", "LATENCY_CLIP_MIN_MS", "LATENCY_CLIP_MAX_MS", "DEFAULT_LANG", "DEFAULT_DEVICE",
   "DEFAULT_POLICY_VERSION", "STICKY_DEFAULT_STRENGTH", "STICKY_DEFAULT_SCOPE", "TRACE_BY_DEFAULT",
   "HONOR_OVERRIDE_EXPIRY"].map ("ADAPTIVITY_" ++ ·)

/-- The variables that are set. -/
def environment : IO (Keyed String) :=
  variableNames.filterMapM fun name => do
    return (← IO.getEnv name).map fun value => (name, value)

/-- The text of a file, or why there is none. -/
def readFile (path : String) : IO (Except FileError String) := do
  try
    return .ok (← IO.FS.readFile path)
  catch
    | .noFileOrDirectory .. => return .error .missing
    | _                     => return .error .isDirectory

/-- The files that a command reads. -/
def inputFiles : Command → List String
  | .select a => [a.slotFile, a.sessionFile] ++ a.policyFile.toList
  | _         => []

/-- A row of cells, padded to the widths of its columns. -/
def rowText (widths : List Nat) (cells : List String) : String :=
  "  ".intercalate ((cells.zip widths).map fun (c, n) =>
    c ++ String.ofList (List.replicate (n - cellLength c.toList) ' '))

/-- Prints a table. -/
def printTable (t : ShownTable) : IO Unit := do
  let widths := t.cells.foldl (fun widths row =>
    (List.range row.length).map fun i =>
      max ((widths[i]?).getD 0) (cellLength ((row[i]?).getD "").toList)) []
  for line in t.title do
    IO.println line
  for row in t.cells do
    IO.println (rowText widths row)

/-- The text of what a command failed with. -/
def failureText : CommandFailure → String
  | .opening (.issues is) =>
      "\n".intercalate ((sortIssues is).map fun i => i.location ++ ": " ++ i.fault.label)
  | .opening _            => "The session file holds no entries"
  | .selection _          => "The selection failed"
  | .guard _              => "The guard holds an integer of too many digits"
  | .oversizedInteger     => "A file holds an integer of too many digits"
  | .tooDeep              => "A file is nested too deeply"
  | .markup _             => "The markup of a text is in disorder"
  | .file _               => "The session cannot be written"
  | .nullCharacter        => "A path holds a null character"

/-- Prints a report and writes its file. -/
def publish (r : CommandReport) : IO UInt32 := do
  if let some t := r.table? then printTable t
  for line in r.lines do
    IO.println line
  if let some d := r.result? then IO.println (Json.pretty 0 d)
  if let some f := r.failure? then IO.eprintln (failureText f)
  let code : UInt32 := r.exitCode.toUInt32
  match r.written? with
  | none           => return code
  | some (path, d) =>
      try
        IO.FS.writeFile path (Json.pretty 0 d)
        return code
      catch _ =>
        IO.eprintln (failureText (.file .missing))
        return 1

/-- The room in which the program runs commands: what a stack of a thousand frames leaves. -/
def room : Room := ⟨970, 970⟩

/-- Runs a command. -/
def execute (c : Command) : IO UInt32 := do
  let files ← ((inputFiles c).map normalPath).mapM fun path => do
    return (path, ← readFile path)
  let dotenv := match ← readFile ".env" with
    | .ok text => text
    | .error _ => ""
  let settings := Settings.ofSources [] (← environment) dotenv
  let now := (← Std.Time.Timestamp.now).toMillisecondsSinceUnixEpoch.toInt
  let workspace : Workspace :=
    ⟨fun path => (Keyed.get? files path).getD (.error .missing), fun _ => none⟩
  publish (c.run room workspace settings (.float (intToFloat now)))

end LessonVariants.Program

/-- Runs the command line. -/
def main (args : List String) : IO UInt32 := do
  match LessonVariants.Invocation.ofArguments args with
  | .run c  => LessonVariants.Program.execute c
  | .help   => IO.println LessonVariants.Program.usage; return 0
  | .misuse => IO.eprintln LessonVariants.Program.usage; return 2
