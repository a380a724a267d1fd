import LessonVariants.Guard.Expr
import LessonVariants.Guard.Lexer

/-! # Parsing guards

    The grammar, from the loosest binding to the tightest:

        disjunction := conjunction ("||" conjunction)*
        conjunction := comparison ("&&" comparison)*
        comparison  := operand (COMPARATOR operand)?
        operand     := ("!" | "-") operand | "(" disjunction ")" | constant | path
        path        := ROOT ("." NAME | "[" (STRING | NUMBER) "]")*

    Chains lean to the left.  A parser takes tokens from the front of a list and returns the rest;
    when it fails, it returns the tokens from the offending one on, none at the end of the text.
    Nesting is bounded by the room that the stack leaves: every prefix operator takes one level of it
    and every parenthesis five, one for each rule that it re-enters. -/

namespace LessonVariants

/-- Why and where parsing stopped. -/
inductive Stop where
  | complaint (c : Complaint) (rest : List Located)
  | tooDeep
  deriving DecidableEq, Repr

/-- A parser takes tokens from the front. -/
abbrev Parser (α : Type) := List Located → Except Stop (α × List Located)

/-- The steps of a path, as many as there are. -/
def segments : Parser (List Segment)
  | ⟨.op .dot, _⟩ :: ⟨.name s, _⟩ :: ts =>
      (segments ts).map fun (ss, rest) => (.key s :: ss, rest)
  | ⟨.op .dot, _⟩ :: ts => .error (.complaint .expectedProperty ts)
  | ⟨.op .openBracket, _⟩ :: ⟨.string s, _⟩ :: ⟨.op .closeBracket, _⟩ :: ts =>
      (segments ts).map fun (ss, rest) => (.key s :: ss, rest)
  | ⟨.op .openBracket, _⟩ :: ⟨.number n, _⟩ :: ⟨.op .closeBracket, _⟩ :: ts =>
      (segments ts).map fun (ss, rest) => (.index n :: ss, rest)
  | ⟨.op .openBracket, _⟩ :: ⟨.string _, _⟩ :: ts => .error (.complaint (.expected .closeBracket) ts)
  | ⟨.op .openBracket, _⟩ :: ⟨.number _, _⟩ :: ts => .error (.complaint (.expected .closeBracket) ts)
  | ⟨.op .openBracket, _⟩ :: ts => .error (.complaint .expectedIndex ts)
  | ts => .ok ([], ts)

/-- The constant that a keyword stands for. -/
def keyword? (s : String) : Option Literal :=
  if s = "true" then some (.bool true)
  else if s = "false" then some (.bool false)
  else if s = "null" then some .null
  else none

/-- The root of the given name. -/
def Root.ofName? (s : String) : Option Root :=
  Root.all.find? (·.text == s)

/-- A constant or a path; everything else is out of place here. -/
def primary : Parser Expr
  | [] => .error (.complaint .unexpectedEnd [])
  | t :: ts =>
      match t.token with
      | .number n => .ok (.literal (.number n), ts)
      | .string s => .ok (.literal (.text s), ts)
      | .op o     => .error (.complaint (.unexpectedToken (.op o)) (t :: ts))
      | .name s   =>
          match keyword? s with
          | some l => .ok (.literal l, ts)
          | none   =>
              match Root.ofName? s with
              | some r => (segments ts).map fun (ss, rest) => (.path r ss, rest)
              | none   => .error (.complaint (.unknownName s) (t :: ts))

/-- Further terms of a chain, each after the separator, joined to what stands on the left.  The
    number bounds the terms; the number of tokens is always enough. -/
def chain (separator : Op) (join : Expr → Expr → Expr) (term : Parser Expr) :
    Nat → Expr → Parser Expr
  | 0,     left, ts => .ok (left, ts)
  | n + 1, left, ts =>
      match ts with
      | ⟨.op o, p⟩ :: rest =>
          if o = separator then do
            let (right, rest) ← term rest
            chain separator join term n (join left right) rest
          else .ok (left, ⟨.op o, p⟩ :: rest)
      | ts => .ok (left, ts)

/-- One operand, or two with a comparison operator between them. -/
def comparison (operand : Parser Expr) : Parser Expr := fun ts => do
  let (left, rest) ← operand ts
  match rest with
  | ⟨.op (.compare c), _⟩ :: rest => do
      let (right, rest) ← operand rest
      pure (.compare c left right, rest)
  | rest => pure (left, rest)

/-- Comparisons joined by `&&`. -/
def conjunction (operand : Parser Expr) : Parser Expr := fun ts => do
  let (left, rest) ← comparison operand ts
  chain .and .and (comparison operand) rest.length left rest

/-- Conjunctions joined by `||`. -/
def disjunction (operand : Parser Expr) : Parser Expr := fun ts => do
  let (left, rest) ← conjunction operand ts
  chain .or .or (conjunction operand) rest.length left rest

/-- The closing parenthesis after an expression. -/
def closing (e : Expr) : Parser Expr
  | ⟨.op .closeParen, _⟩ :: rest => .ok (e, rest)
  | ts                           => .error (.complaint (.expected .closeParen) ts)

/-- An operand within the given allowance of nesting. -/
def operand : Nat → Parser Expr
  | 0, _ => .error .tooDeep
  | d + 1, ts =>
      match ts with
      | ⟨.op .not, _⟩ :: rest   => (operand d rest).map fun (e, rest) => (.not e, rest)
      | ⟨.op .minus, _⟩ :: rest => (operand d rest).map fun (e, rest) => (.negate e, rest)
      | ⟨.op .openParen, _⟩ :: rest =>
          match d with
          | k + 4 => do
              let (e, rest) ← disjunction (operand k) rest
              closing e rest
          | _ => .error .tooDeep
      | ts => primary ts

/-- The expression that a whole token list denotes, within an allowance of nesting. -/
def parseWithin (allowance : Nat) (ts : List Located) : Except Stop Expr :=
  match ts with
  | [] => .error (.complaint .emptyExpression [])
  | ts => do
      let (e, rest) ← disjunction (operand allowance) ts
      match rest with
      | []     => pure e
      | t :: _ => .error (.complaint (.unexpectedToken t.token) rest)

/-- The position of the first of the remaining tokens, or of the end of the text. -/
def positionOf (rest : List Located) (stop : Nat) : Nat :=
  match rest with
  | []     => stop
  | t :: _ => t.position

/-- The expression that a guard text denotes, within an allowance of nesting.  A text without tokens is
    refused at its beginning. -/
def parseGuard (allowance : Nat) (source : String) : Except Malformed Expr := do
  let ts ← lex source
  match parseWithin allowance ts with
  | .ok e                                 => pure e
  | .error .tooDeep                       => .error .tooDeep
  | .error (.complaint .emptyExpression _) => .error (.complaint .emptyExpression 0)
  | .error (.complaint c rest)            => .error (.complaint c (positionOf rest source.length))

end LessonVariants
