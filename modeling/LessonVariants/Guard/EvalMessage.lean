import LessonVariants.Guard.Eval

/-! # What is said about guards that cannot be evaluated -/

namespace LessonVariants

namespace Value

/-- The kind of a value in messages; a record goes by its own kind. -/
def kindText : Value Number → String
  | null              => "NoneType"
  | bool _            => "bool"
  | number (.int _)   => "int"
  | number (.float _) => "float"
  | text _            => "str"
  | list _            => "list"
  | object _          => "dict"
  | record k _        => k
  | test              => "function"

mutual

/-- A value as messages show it. -/
def shown : Value Number → String
  | null         => "None"
  | bool true    => "True"
  | bool false   => "False"
  | number n     => n.text
  | text s       => quoted s
  | list xs      => "[" ++ ", ".intercalate (shownItems xs) ++ "]"
  | object m     => "\x7b" ++ ", ".intercalate (shownEntries m) ++ "\x7d"
  | record k fs  => k ++ "(" ++ ", ".intercalate (shownFields fs) ++ ")"
  | test         => "<function>"

/-- Items as messages show them. -/
def shownItems : List (Value Number) → List String
  | []      => []
  | x :: xs => shown x :: shownItems xs

/-- Entries of an object as messages show them. -/
def shownEntries : List (String × Value Number) → List String
  | []          => []
  | (k, x) :: m => (quoted k ++ ": " ++ shown x) :: shownEntries m

/-- Fields of a record as messages show them. -/
def shownFields : List (FieldName × Value Number) → List String
  | []           => []
  | (f, x) :: fs => (f.internal ++ "=" ++ shown x) :: shownFields fs

end

/-- A path step inside the text of a path: a text without quotes. -/
def stepText : Value Number → String
  | text s => s
  | v      => v.shown

end Value

/-- A path as messages show it. -/
def Walked.text (w : Walked Number) : String :=
  ".".intercalate (w.root :: w.steps.map Value.stepText)

/-- The text of an evaluation error. -/
def EvalError.message : EvalError Number → String
  | .noProperty w k        => w.text ++ " has no property " ++ k.shown
  | .noKey w k             => w.text ++ " has no key " ++ k.shown
  | .outOfRange w k        => w.text ++ "[" ++ k.stepText ++ "] is out of range"
  | .unreadable w k v      => "Cannot read " ++ k.shown ++ " of " ++ w.text ++ " (" ++ v.kindText ++ ")"
  | .notNegatable v        => "Cannot negate non-number " ++ v.shown
  | .incomparable a op b   => "Cannot compare " ++ a.shown ++ " " ++ op ++ " " ++ b.shown
  | .unknownOperator op    => "Unknown operator " ++ op
  | .tooDeep               => "Expression is nested too deeply"
  | .oversizedInteger      => "An integer has too many digits to be shown"
  | .compoundKey           => "A list or an object is no key"
  | .infiniteIndex         => "An index is infinite"
  | .undefinedIndex        => "An index is no number"

end LessonVariants
