import LessonVariants.Guard.Complaint
import LessonVariants.Guard.Depth

/-! # Evaluating guards

    An expression is evaluated against the values of its three roots.  Whatever goes wrong is an
    `EvalError`; conjunction and disjunction evaluate their right side only when the left side
    leaves the answer open.

    Evaluation takes place in the room that the stack leaves, in levels of nesting.  Every operator
    takes a level, and what is left where two values are compared, or where an error is told, bounds
    the depth of the data that can be gone through there. -/

namespace LessonVariants

/-- A path as far as it has been followed. -/
structure Walked (ρ : Type) where
  root  : String
  steps : List (Value ρ)

/-- Why an expression has no value. -/
inductive EvalError (ρ : Type) where
  | noProperty (walked : Walked ρ) (key : Value ρ)
  | noKey (walked : Walked ρ) (key : Value ρ)
  | outOfRange (walked : Walked ρ) (key : Value ρ)
  | unreadable (walked : Walked ρ) (key : Value ρ) (value : Value ρ)
  | notNegatable (value : Value ρ)
  | incomparable (left : Value ρ) (operator : String) (right : Value ρ)
  | unknownOperator (operator : String)
  | tooDeep
  | oversizedInteger
  | compoundKey
  | infiniteIndex
  | undefinedIndex

/-- Whether an error is beyond what a guard may fail with: the predicate passes it on instead of
    rejecting. -/
def EvalError.isFatal {ρ : Type} : EvalError ρ → Bool
  | .oversizedInteger => true
  | .compoundKey      => true
  | .infiniteIndex    => true
  | .undefinedIndex   => true
  | _                 => false

/-- The error that an obstacle amounts to. -/
def Obstacle.error {ρ : Type} : Obstacle → EvalError ρ
  | depth  => .tooDeep
  | digits => .oversizedInteger

variable {ρ : Type} [Scalar ρ]

/-- The values that the message of an error shows in full.  Steps of a path are left out: they are
    constants of the guard text, and those can be shown. -/
def EvalError.shownValues : EvalError ρ → List (Value ρ)
  | .notNegatable v     => [v]
  | .incomparable a _ b => [a, b]
  | _                   => []

/-- What comes of an error when its message is written with a number of levels left: another error, if
    one of its values cannot be shown. -/
def EvalError.told (e : EvalError ρ) (room : Nat) : EvalError ρ :=
  match Value.itemsObstacle? e.shownValues room with
  | some o => o.error
  | none   => e

/-- A constant as a value. -/
def Literal.toValue : Literal → Value ρ
  | .null     => .null
  | .bool b   => .bool b
  | .number n => .number n.toScalar
  | .text s   => .text s

/-- A path step as a value. -/
def Segment.toValue : Segment → Value ρ
  | .key s   => .text s
  | .index n => .number n.toScalar

namespace Value

/-- The position that an index cut to an integer stands for; negative ones count from the end. -/
def position (xs : List (Value ρ)) (i : Int) : Int :=
  if i < 0 then i + xs.length else i

/-- The item at an index. -/
def item? (xs : List (Value ρ)) (i : Int) : Option (Value ρ) :=
  if position xs i < 0 then none else xs[(position xs i).toNat]?

/-- One step into a value: records by the names of their fields, objects by their keys, lists by
    numbers cut to an integer. -/
def member (walked : Walked ρ) (value key : Value ρ) : Except (EvalError ρ) (Value ρ) :=
  match value with
  | record _ fields =>
      match key with
      | text s =>
          match fields.find? fun f => f.1.answersTo s with
          | some f => .ok f.2
          | none   => .error (.noProperty walked key)
      | _ => .error (.noProperty walked key)
  | object m =>
      match key with
      | text s =>
          match Keyed.get? m s with
          | some v => .ok v
          | none   => .error (.noKey walked key)
      | _ => if key.isContainer then .error .compoundKey else .error (.noKey walked key)
  | list xs =>
      match key with
      | number n =>
          match Scalar.reading n with
          | .undefined   => .error .undefinedIndex
          | .negInfinity => .error .infiniteIndex
          | .posInfinity => .error .infiniteIndex
          | .finite q    =>
              match item? xs (q.num.tdiv q.den) with
              | some v => .ok v
              | none   => .error (.outOfRange walked key)
      | _ => .error (.unreadable walked key value)
  | _ => .error (.unreadable walked key value)

/-- Follows a path from a value that has been reached already. -/
def follow (value : Value ρ) (walked : Walked ρ) : List (Value ρ) → Except (EvalError ρ) (Value ρ)
  | []        => .ok value
  | key :: ks => do
      let next ← member walked value key
      follow next ⟨walked.root, walked.steps ++ [key]⟩ ks

/-- Where one step into a value leads: to a field by its internal name, to an entry by its key, or to
    an item by its position. -/
def landing? (value key : Value ρ) : Option (String ⊕ Int) :=
  match value, key with
  | record _ fields, text s   =>
      (fields.find? fun f => f.1.answersTo s).map fun f => .inl f.1.internal
  | object _,        text s   => some (.inl s)
  | list xs,         number n =>
      match Scalar.reading n with
      | .finite q => some (.inr (position xs (q.num.tdiv q.den)))
      | _         => none
  | _,               _        => none

/-- The place inside a value to which a path leads.  Paths in different words may have one place. -/
def place? (value : Value ρ) : List (Value ρ) → Option (List (String ⊕ Int))
  | []        => some []
  | key :: ks => do
      let step ← landing? value key
      let next ← (member ⟨"", []⟩ value key).toOption
      return step :: (← place? next ks)

/-- How two values are ordered: numbers by their exact readings, texts by code points. -/
def ordering? : Value ρ → Value ρ → Option (Option Ordering)
  | number a, number b => some (Scalar.compare? a b)
  | text s,   text t   => some (some (compare s t))
  | _,        _        => none

end Value

/-- Whether an order relation holds of two values that are ordered as given. -/
def Comparator.accepts : Comparator → Option Ordering → Bool
  | .below,   o => o == some .lt
  | .atMost,  o => o == some .lt || o == some .eq
  | .above,   o => o == some .gt
  | .atLeast, o => o == some .gt || o == some .eq
  | _,        _ => false

/-- Equality of two values that may stand at one place, with a number of levels left.  A container
    equals itself, even where it holds undefined numbers, and nothing is gone through for that. -/
def Value.equalsAt (room : Nat) (onePlace : Bool) (a b : Value ρ) : Except (EvalError ρ) Bool :=
  if onePlace && a.isContainer then .ok true
  else if sameLevels a b ≤ room then .ok (equals a b)
  else .error .tooDeep

/-- Compares two values with a number of levels left, given whether they stand at one place.  Equality
    has an answer unless it goes too deep, an order only between numbers and between texts. -/
def Value.compare (room : Nat) (onePlace : Bool) (c : Comparator) (a b : Value ρ) :
    Except (EvalError ρ) Bool :=
  match c with
  | .equal          => equalsAt room onePlace a b
  | .strictEqual    => equalsAt room onePlace a b
  | .notEqual       => (equalsAt room onePlace a b).map (!·)
  | .strictNotEqual => (equalsAt room onePlace a b).map (!·)
  | c =>
      match ordering? a b with
      | some o => .ok (c.accepts o)
      | none   => .error ((EvalError.incomparable a c.text b).told room)

/-- Compares two values by an operator given by its written form, with a number of levels left. -/
def Value.compareBy (room : Nat) (operator : String) (a b : Value ρ) :
    Except (EvalError ρ) Bool :=
  match Comparator.all.find? (·.text == operator) with
  | some c => compare room false c a b
  | none   =>
      match ordering? a b with
      | some _ => .error (.unknownOperator operator)
      | none   => .error ((EvalError.incomparable a operator b).told room)

/-- Whether two expressions are paths to one place. -/
def Expr.onePlace (scope : Root → Value ρ) : Expr → Expr → Bool
  | path r ss, path r' ss' =>
      let place := fun (r : Root) (ss : List Segment) => (scope r).place? (ss.map Segment.toValue)
      r == r' && (place r ss).isSome && place r ss == place r' ss'
  | _, _ => false

/-- The value of an expression, with a number of levels left. -/
def Expr.evalWithin (scope : Root → Value ρ) : Expr → Nat → Except (EvalError ρ) (Value ρ)
  | _,             0     => .error .tooDeep
  | literal l,     _ + 1 => .ok l.toValue
  | path r ss,     _ + 1 => (scope r).follow ⟨r.text, []⟩ (ss.map Segment.toValue)
  | not e,         d + 1 => do
      let v ← e.evalWithin scope d
      pure (.bool !v.isTrue)
  | negate e,      d + 1 => do
      match ← e.evalWithin scope d with
      | .number n => pure (.number (-n))
      | v         => .error ((EvalError.notNegatable v).told d)
  | compare c l r, d + 1 => do
      let a ← l.evalWithin scope d
      let b ← r.evalWithin scope d
      return .bool (← Value.compare d (onePlace scope l r) c a b)
  | and l r,       d + 1 => do
      let a ← l.evalWithin scope d
      if a.isTrue then
        let b ← r.evalWithin scope d
        pure (.bool b.isTrue)
      else pure (.bool false)
  | or l r,        d + 1 => do
      let a ← l.evalWithin scope d
      if a.isTrue then pure (.bool true)
      else
        let b ← r.evalWithin scope d
        pure (.bool b.isTrue)

end LessonVariants
