import LessonVariants.Keyed
import LessonVariants.Text.Blank
import LessonVariants.Text.Lines

/-! # Files of variables

    A file of variables has one binding a line: a key, an equals sign and a value.  The key may
    follow the word `export`; the value may be quoted, and else ends before a comment.  A key alone
    names a variable without a value.  Lines that are no binding are passed over.  A value may refer
    to other variables as `${NAME}` or, with a default, as `${NAME:-default}`. -/

namespace LessonVariants.EnvFile

/-- Blanks that do not end a line. -/
def isInlineBlank (c : Char) : Bool :=
  isBlank c && c != '\n'

/-- What a reader takes from the front of a text, and the text after it.  A reader that fails gives
    the text that it could not read. -/
abbrev Taken (α : Type) := Except (List Char) (α × List Char)

/-- The end of a line with the blanks before it. -/
def lineEnd (cs : List Char) : Taken Unit :=
  match cs.dropWhile isInlineBlank with
  | []           => .ok ((), [])
  | '\n' :: rest => .ok ((), rest)
  | _            => .error cs

/-- The text after the current line. -/
def restOfLine (cs : List Char) : List Char :=
  (cs.dropWhile (· != '\n')).drop 1

/-- The text without a comment at its front. -/
def skipComment (cs : List Char) : List Char :=
  match cs.dropWhile isInlineBlank with
  | '#' :: rest => rest.dropWhile (· != '\n')
  | _           => cs

/-- The text without the word `export` and the blanks after it. -/
def skipExport (cs : List Char) : List Char :=
  match cs with
  | 'e' :: 'x' :: 'p' :: 'o' :: 'r' :: 't' :: c :: rest =>
      if isInlineBlank c then rest.dropWhile isInlineBlank else cs
  | _ => cs

/-- The characters up to a closing quote, and the text after it.  A backslash takes the next
    character of its line with it, whatever that is. -/
def quotedPart? (quote : Char) : List Char → Option (List Char × List Char)
  | [] => none
  | ['\\'] => none
  | '\\' :: c :: rest =>
      if c = '\n' then none
      else (quotedPart? quote rest).map fun p => ('\\' :: c :: p.1, p.2)
  | c :: rest =>
      if c = quote then some ([], rest)
      else (quotedPart? quote rest).map fun p => (c :: p.1, p.2)

/-- The character that an escape in double quotes stands for. -/
def escaped? : Char → Option Char
  | '\\' => some '\\'
  | '\'' => some '\''
  | '"'  => some '"'
  | 'a'  => some '\x07'
  | 'b'  => some '\x08'
  | 'f'  => some '\x0c'
  | 'n'  => some '\n'
  | 'r'  => some '\r'
  | 't'  => some '\t'
  | 'v'  => some '\x0b'
  | _    => none

/-- Replaces the escapes that have a meaning; others stay as they are. -/
def unescape (meaning? : Char → Option Char) : List Char → List Char
  | '\\' :: c :: rest =>
      match meaning? c with
      | some d => d :: unescape meaning? rest
      | none   => '\\' :: unescape meaning? (c :: rest)
  | c :: rest => c :: unescape meaning? rest
  | [] => []
termination_by cs => cs.length

/-- The text before a comment that follows a blank. -/
def beforeComment : List Char → List Char
  | [] => []
  | c :: rest =>
      if isBlank c ∧ (rest.dropWhile isBlank).head? = some '#' then []
      else c :: beforeComment rest

/-- A key at the front, none for a comment. -/
def key (cs : List Char) : Taken (Option String) :=
  match cs with
  | '#' :: _ => .ok (none, cs)
  | '\'' :: rest =>
      let body := rest.takeWhile (· != '\'')
      match rest.dropWhile (· != '\'') with
      | _ :: after => if body = [] then .error cs else .ok (some (String.ofList body), after)
      | []         => .error cs
  | cs =>
      let inKey := fun c => c != '=' && c != '#' && !isBlank c
      let body := cs.takeWhile inKey
      if body = [] then .error cs else .ok (some (String.ofList body), cs.dropWhile inKey)

/-- A value in quotes, with its escapes replaced. -/
def quotedValue (quote : Char) (meaning? : Char → Option Char) (rest : List Char) :
    Taken String :=
  match quotedPart? quote rest with
  | some (body, after) => .ok (String.ofList (unescape meaning? body), after)
  | none               => .error (quote :: rest)

/-- A value without quotes: the text up to a comment, without blanks at its ends. -/
def plainValue (cs : List Char) : String × List Char :=
  (String.ofList (trimEnds isBlank (beforeComment (cs.takeWhile (· != '\n')))),
    cs.dropWhile (· != '\n'))

/-- A value after an equals sign. -/
def value (cs : List Char) : Taken String :=
  match cs.dropWhile isInlineBlank with
  | '\'' :: rest =>
      quotedValue '\'' (fun c => if c = '\\' ∨ c = '\'' then some c else none) rest
  | '"' :: rest  => quotedValue '"' escaped? rest
  | _            => .ok (plainValue cs)

/-- A binding at the front.  A key without an equals sign has no value. -/
def binding (cs : List Char) :
    Except (List Char) (Option (String × Option String) × List Char) := do
  let (name, afterKey) ← key (skipExport cs)
  let (bound, afterValue) ←
    match afterKey.dropWhile isInlineBlank with
    | '=' :: rest => (value rest).map fun p => (some p.1, p.2)
    | rest        => .ok (none, rest)
  let ((), rest) ← lineEnd (skipComment afterValue)
  pure (name.map fun k => (k, bound), rest)

/-- The bindings of a text in order; the number bounds the lines.  Reading goes on with the line
    after the place where a binding failed. -/
def bindings : Nat → List Char → List (String × Option String)
  | 0,     _  => []
  | n + 1, cs =>
      match cs.dropWhile isBlank with
      | [] => []
      | c :: rest =>
          match binding (c :: rest) with
          | .ok (some b, r) => b :: bindings n r
          | .ok (none, r)   => bindings n r
          | .error r        => bindings n (restOfLine r)

/-- The name, the default if there is one, and the rest after a reference's opening brace. -/
def reference? (cs : List Char) : Option (String × Option String × List Char) :=
  let name := cs.takeWhile fun c => c != '\x7d' && c != ':'
  match cs.dropWhile fun c => c != '\x7d' && c != ':' with
  | '\x7d' :: rest => some (String.ofList name, none, rest)
  | ':' :: '-' :: rest =>
      let default := rest.takeWhile (· != '\x7d')
      match rest.dropWhile (· != '\x7d') with
      | _ :: rest => some (String.ofList name, some (String.ofList default), rest)
      | []        => none
  | _ => none

/-- A value with its references replaced: by the value of the variable, by nothing if the variable
    is there without a value, and else by the default.  The number bounds the characters. -/
def interpolate (known : Keyed (Option String)) : Nat → List Char → List Char
  | 0,     cs => cs
  | n + 1, cs =>
      match cs with
      | '$' :: '\x7b' :: rest =>
          match reference? rest with
          | some (name, default, after) =>
              (((known.get? name).getD default).getD "").toList ++ interpolate known n after
          | none => '$' :: interpolate known n ('\x7b' :: rest)
      | c :: rest => c :: interpolate known n rest
      | []        => []

/-- The variables that a text names, given those of the surroundings.  Later bindings win, also one
    that leaves its variable without a value, and a reference sees the bindings before it. -/
def assignments (surroundings : Keyed String) (source : String) : Keyed (Option String) :=
  let cs := withLineFeeds source.toList
  let outer : Keyed (Option String) := surroundings.map fun e => (e.1, some e.2)
  (bindings (cs.length + 1) cs).foldl (fun found b =>
    let known := found.foldl (fun m e => m.insert e.1 e.2) outer
    found.insert b.1 (b.2.map fun v => String.ofList (interpolate known (v.length + 1) v.toList))) []

end LessonVariants.EnvFile
