/-! # Command line arguments

    The command line has three commands: a dry run of a selection from JSON files, a check of guard
    text, and a list of the ready-made guards.  Options may stand among the positional arguments
    of a command; after `--` everything is positional. -/

namespace LessonVariants

/-- The options and files of a dry run. -/
structure SelectArguments where
  slotFile    : String
  sessionFile : String
  policyFile  : Option String := none
  trace       : Bool          := true
  writeTo     : Option String := none
  deriving DecidableEq, Repr

/-- A command with its arguments. -/
inductive Command where
  | select (arguments : SelectArguments)
  | checkGuard (expression : String)
  | templates
  deriving DecidableEq, Repr

/-- What a command line asks for. -/
inductive Invocation where
  | run (command : Command)
  | help
  | misuse
  deriving DecidableEq, Repr

namespace Arguments

/-- What the arguments of a command have said so far. -/
structure Given where
  positional : List String   := []
  policyFile : Option String := none
  trace      : Bool          := true
  writeTo    : Option String := none
  help       : Bool          := false

/-- Whether an argument is an option. -/
def isOption (a : String) : Bool :=
  a.startsWith "-" && a != "-"

/-- The name of a long option and the value after its equals sign. -/
def splitLong (a : String) : String × Option String :=
  let cs := a.toList
  match cs.dropWhile (· != '=') with
  | []        => (a, none)
  | _ :: rest => (String.ofList (cs.takeWhile (· != '=')), some (String.ofList rest))

/-- The value of an option, from its own argument or else from the next one. -/
def takeValue (own : Option String) (rest : List String) : Option (String × List String) :=
  match own, rest with
  | some v, rest      => some (v, rest)
  | none,   v :: rest => some (v, rest)
  | none,   []        => none

/-- Reads the arguments of a command; nothing if they are misused.  Only a dry run has options of its
    own.  The number bounds the arguments. -/
def read (hasOptions : Bool) : Nat → Given → List String → Option Given
  | 0,     g, _  => some g
  | _ + 1, g, [] => some g
  | n + 1, g, a :: rest =>
      if a = "--" then some { g with positional := g.positional ++ rest }
      else if !isOption a then read hasOptions n { g with positional := g.positional ++ [a] } rest
      else if a.startsWith "--" then
        let (name, own) := splitLong a
        if name = "--help" ∧ own = none then read hasOptions n { g with help := true } rest
        else if !hasOptions then none
        else if name = "--trace" ∧ own = none then read hasOptions n { g with trace := true } rest
        else if name = "--no-trace" ∧ own = none then read hasOptions n { g with trace := false } rest
        else if name = "--policy" then
          (takeValue own rest).bind fun (v, rest) =>
            read hasOptions n { g with policyFile := some v } rest
        else if name = "--write-session" then
          (takeValue own rest).bind fun (v, rest) =>
            read hasOptions n { g with writeTo := some v } rest
        else none
      else if hasOptions && a.startsWith "-p" then
        let own := if a = "-p" then none else some (String.ofList (a.toList.drop 2))
        (takeValue own rest).bind fun (v, rest) =>
          read hasOptions n { g with policyFile := some v } rest
      else none

/-- The invocation that the arguments of a named command make up. -/
def ofCommand (name : String) (arguments : List String) : Invocation :=
  match read (name == "select") (arguments.length + 1) {} arguments with
  | none   => .misuse
  | some g =>
      if g.help then .help
      else
        match name, g.positional with
        | "select", [slotFile, sessionFile] =>
            .run (.select ⟨slotFile, sessionFile, g.policyFile, g.trace, g.writeTo⟩)
        | "validate-guard", [expression] => .run (.checkGuard expression)
        | "templates", [] => .run .templates
        | _, _ => .misuse

/-- The names of the commands. -/
def commandNames : List String := ["select", "validate-guard", "templates"]

/-- Options before the command: help, and verbosity, which concerns no answer. -/
def beforeCommand (help : Bool) : List String → Invocation
  | [] => if help then .help else .misuse
  | a :: rest =>
      if a = "--" then
        match help, rest with
        | true,  _            => .help
        | false, []           => .misuse
        | false, name :: args => if name ∈ commandNames then ofCommand name args else .misuse
      else if !isOption a then
        if help then .help
        else if a ∈ commandNames then ofCommand a rest else .misuse
      else if a = "--help" then beforeCommand true rest
      else if a = "--verbose" then beforeCommand help rest
      else if !a.startsWith "--" && (a.toList.drop 1).all (· == 'v') then beforeCommand help rest
      else .misuse

end Arguments

/-- What a command line asks for.  An empty one shows the help as a misuse. -/
def Invocation.ofArguments (arguments : List String) : Invocation :=
  Arguments.beforeCommand false arguments

end LessonVariants
