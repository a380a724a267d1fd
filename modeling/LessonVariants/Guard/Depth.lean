import LessonVariants.Guard.Value

/-! # Values of any depth

    Comparing values for equality and showing them in a message go down into containers, one level of
    the stack for each level of the data.  So both can come to the end of the stack.  Showing has
    another limit beside that: an integer of too many digits has no text. -/

namespace LessonVariants

/-- What keeps a value from being shown. -/
inductive Obstacle where
  | depth
  | digits
  deriving DecidableEq, Repr

namespace Value

variable {ρ : Type}

mutual

/-- The levels of containers in a value. -/
def depth : Value ρ → Nat
  | list xs     => itemsDepth xs + 1
  | object m    => entriesDepth m + 1
  | record _ fs => fieldsDepth fs + 1
  | _           => 0

/-- The levels of containers in the items of a list. -/
def itemsDepth : List (Value ρ) → Nat
  | []      => 0
  | x :: xs => max (depth x) (itemsDepth xs)

/-- The levels of containers in the entries of an object. -/
def entriesDepth : List (String × Value ρ) → Nat
  | []          => 0
  | (_, x) :: m => max (depth x) (entriesDepth m)

/-- The levels of containers in the fields of a record. -/
def fieldsDepth : List (FieldName × Value ρ) → Nat
  | []           => 0
  | (_, x) :: fs => max (depth x) (fieldsDepth fs)

end

variable [Scalar ρ]

mutual

/-- The levels that a comparison for equality goes down.  It looks into containers of one kind and
    one size, part by part, and ends at the first parts that differ. -/
def sameLevels : Value ρ → Value ρ → Nat
  | list xs,     list ys     => if xs.length = ys.length then itemsLevels xs ys + 1 else 0
  | object m,    object n    => if m.length = n.length then entriesLevels m n + 1 else 0
  | record k fs, record l gs => if k = l then fieldsLevels fs gs + 1 else 0
  | _,           _           => 0

/-- The levels that comparing items goes down. -/
def itemsLevels : List (Value ρ) → List (Value ρ) → Nat
  | x :: xs, y :: ys => max (sameLevels x y) (if same x y then itemsLevels xs ys else 0)
  | _,       _       => 0

/-- The levels that comparing entries with those under the same keys goes down. -/
def entriesLevels : List (String × Value ρ) → List (String × Value ρ) → Nat
  | [],          _ => 0
  | (k, x) :: m, n =>
      match Keyed.get? n k with
      | some y => max (sameLevels x y) (if same x y then entriesLevels m n else 0)
      | none   => 0

/-- The levels that comparing fields goes down. -/
def fieldsLevels : List (FieldName × Value ρ) → List (FieldName × Value ρ) → Nat
  | (_, x) :: fs, (_, y) :: gs => max (sameLevels x y) (if same x y then fieldsLevels fs gs else 0)
  | _,            _            => 0

end

mutual

/-- What showing a value comes to first that keeps it from being shown, with a number of levels
    left. -/
def obstacle? : Value ρ → Nat → Option Obstacle
  | number n,    _     => if Scalar.hasText n then none else some .digits
  | list _,      0     => some .depth
  | list xs,     d + 1 => itemsObstacle? xs d
  | object _,    0     => some .depth
  | object m,    d + 1 => entriesObstacle? m d
  | record _ _,  0     => some .depth
  | record _ fs, d + 1 => fieldsObstacle? fs d
  | _,           _     => none

/-- What showing items comes to first. -/
def itemsObstacle? : List (Value ρ) → Nat → Option Obstacle
  | [],      _ => none
  | x :: xs, d => (obstacle? x d).or (itemsObstacle? xs d)

/-- What showing the entries of an object comes to first. -/
def entriesObstacle? : List (String × Value ρ) → Nat → Option Obstacle
  | [],          _ => none
  | (_, x) :: m, d => (obstacle? x d).or (entriesObstacle? m d)

/-- What showing the fields of a record comes to first. -/
def fieldsObstacle? : List (FieldName × Value ρ) → Nat → Option Obstacle
  | [],           _ => none
  | (_, x) :: fs, d => (obstacle? x d).or (fieldsObstacle? fs d)

end

end Value

end LessonVariants
