import LessonVariants.Guard.Token

/-! # Guard expressions -/

namespace LessonVariants

/-- The three values a guard can see. -/
inductive Root where
  | session | slotId | variant
  deriving DecidableEq, Repr

/-- All roots, in the order in which messages list them. -/
def Root.all : List Root := [session, slotId, variant]

/-- The written form of a root. -/
def Root.text : Root → String
  | session => "session"
  | slotId  => "slotId"
  | variant => "variant"

/-- Constants of the guard language. -/
inductive Literal where
  | null
  | bool   (b : Bool)
  | number (n : Numeral)
  | text   (s : String)
  deriving DecidableEq, Repr

/-- One step of a path: a property or key by its text, or an index. -/
inductive Segment where
  | key   (s : String)
  | index (n : Numeral)
  deriving DecidableEq, Repr

/-- A guard expression. -/
inductive Expr where
  | literal (l : Literal)
  | path    (root : Root) (segments : List Segment)
  | not     (operand : Expr)
  | negate  (operand : Expr)
  | compare (c : Comparator) (left right : Expr)
  | and     (left right : Expr)
  | or      (left right : Expr)
  deriving DecidableEq, Repr

end LessonVariants
