import LessonVariants.Data
import LessonVariants.Text.Quoted

/-! # Writing JSON text -/

namespace LessonVariants.Json

/-- One UTF-16 unit as an escape. -/
def unitEscape (n : Nat) : List Char :=
  '\\' :: 'u' :: hexPadded 4 n

/-- One character of a string; all but printable ASCII is escaped. -/
def charText (c : Char) : List Char :=
  if c = '"' ∨ c = '\\' then ['\\', c]
  else if c = '\n' then ['\\', 'n']
  else if c = '\r' then ['\\', 'r']
  else if c = '\t' then ['\\', 't']
  else if c = '\x08' then ['\\', 'b']
  else if c = '\x0c' then ['\\', 'f']
  else if 0x20 ≤ c.toNat ∧ c.toNat < 0x7F then [c]
  else if c.toNat < 0x10000 then unitEscape c.toNat
  else
    unitEscape (0xD800 + (c.toNat - 0x10000) / 0x400) ++
      unitEscape (0xDC00 + (c.toNat - 0x10000) % 0x400)

/-- A string between quotes. -/
def stringText (s : String) : String :=
  String.ofList ('"' :: s.toList.flatMap charText ++ ['"'])

/-- A number. -/
def numberText : Number → String
  | .int i   => toString i
  | .float x => floatText "NaN" "Infinity" x

/-- A line break and the indentation of a level. -/
def lineBreak (level : Nat) : String :=
  "\n" ++ String.ofList (List.replicate (2 * level) ' ')

mutual

/-- A value, with its parts on lines of their own, indented by two spaces a level. -/
def pretty (level : Nat) : Data Number → String
  | .null       => "null"
  | .bool true  => "true"
  | .bool false => "false"
  | .number n   => numberText n
  | .text s     => stringText s
  | .list xs    => if xs.isEmpty then "[]"
      else "[" ++ ",".intercalate (prettyItems (level + 1) xs) ++ lineBreak level ++ "]"
  | .object m   => if m.isEmpty then "\x7b\x7d"
      else "\x7b" ++ ",".intercalate (prettyEntries (level + 1) m) ++ lineBreak level ++ "\x7d"

/-- The items of a list, each on its own line. -/
def prettyItems (level : Nat) : List (Data Number) → List String
  | []      => []
  | x :: xs => (lineBreak level ++ pretty level x) :: prettyItems level xs

/-- The entries of an object, each on its own line. -/
def prettyEntries (level : Nat) : List (String × Data Number) → List String
  | []          => []
  | (k, x) :: m => (lineBreak level ++ stringText k ++ ": " ++ pretty level x) :: prettyEntries level m

end

end LessonVariants.Json
