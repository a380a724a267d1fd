import LessonVariants.Data

/-! # Guard values

    What a guard computes with: constants, free-form data, and the records of the engine, which it
    reads field by field.  Each field of a record goes by two names, the one used on the wire and
    an internal one. -/

namespace LessonVariants

/-- The two names of a record's field. -/
structure FieldName where
  wire     : String
  internal : String
  deriving DecidableEq, Repr

/-- Whether a text is one of the two names. -/
def FieldName.answersTo (f : FieldName) (s : String) : Bool :=
  f.wire == s || f.internal == s

/-- A guard value.  A test supplied by the caller can be held but not looked into. -/
inductive Value (ρ : Type) where
  | null
  | bool   (value : Bool)
  | number (value : ρ)
  | text   (value : String)
  | list   (items : List (Value ρ))
  | object (entries : List (String × Value ρ))
  | record (kind : String) (fields : List (FieldName × Value ρ))
  | test

namespace Value

variable {ρ : Type}

mutual

/-- Free-form data as a guard value. -/
def ofData : Data ρ → Value ρ
  | .null     => null
  | .bool b   => bool b
  | .number n => number n
  | .text s   => text s
  | .list xs  => list (ofItems xs)
  | .object m => object (ofEntries m)

/-- A list of free-form data, item by item. -/
def ofItems : List (Data ρ) → List (Value ρ)
  | []      => []
  | x :: xs => ofData x :: ofItems xs

/-- The entries of a free-form object, value by value. -/
def ofEntries : List (String × Data ρ) → List (String × Value ρ)
  | []          => []
  | (k, x) :: m => (k, ofData x) :: ofEntries m

end

/-- Whether a field is left out when its record is written: one that holds nothing.  A test of the
    caller's own is written, as null. -/
def isOmitted : Value ρ → Bool
  | null => true
  | _    => false

mutual

/-- A value as it is written on the wire: a record is an object under the wire names, without the
    fields that hold nothing.  Nulls inside lists and objects stay. -/
def toData : Value ρ → Data ρ
  | null        => .null
  | bool b      => .bool b
  | number n    => .number n
  | text s      => .text s
  | list xs     => .list (toItems xs)
  | object m    => .object (toEntries m)
  | record _ fs => .object (toFields fs)
  | test        => .null

/-- Written items. -/
def toItems : List (Value ρ) → List (Data ρ)
  | []      => []
  | x :: xs => toData x :: toItems xs

/-- Written entries of an object. -/
def toEntries : List (String × Value ρ) → List (String × Data ρ)
  | []          => []
  | (k, x) :: m => (k, toData x) :: toEntries m

/-- Written fields of a record. -/
def toFields : List (FieldName × Value ρ) → List (String × Data ρ)
  | []           => []
  | (f, x) :: fs => if isOmitted x then toFields fs else (f.wire, toData x) :: toFields fs

end

/-- An optional value; nothing is null. -/
def ofOption {α : Type} (f : α → Value ρ) : Option α → Value ρ
  | none   => null
  | some a => f a

/-- A map whose values are shown by a function. -/
def ofKeyed {α : Type} (f : α → Value ρ) (m : Keyed α) : Value ρ :=
  object (m.map fun e => (e.1, f e.2))

/-- A list whose items are shown by a function. -/
def ofList {α : Type} (f : α → Value ρ) (xs : List α) : Value ρ :=
  list (xs.map f)

variable [Scalar ρ]

/-- Truth of a guard value: zero, the empty text, false and null are false, all else is true. -/
def isTrue : Value ρ → Bool
  | null     => false
  | bool b   => b
  | number n => !Scalar.isZero n
  | text s   => !s.isEmpty
  | _        => true

/-- A truth value as a number. -/
def ofFlag (b : Bool) : ρ := Scalar.ofInt (if b then 1 else 0)

mutual

/-- Equality inside containers, where a truth value equals the number one or zero.  Containers are
    told apart by what they hold. -/
def same : Value ρ → Value ρ → Bool
  | null,        null        => true
  | test,        test        => true
  | bool a,      bool b      => a == b
  | bool a,      number n    => Scalar.eq (ofFlag a) n
  | number n,    bool b      => Scalar.eq n (ofFlag b)
  | number a,    number b    => Scalar.eq a b
  | text s,      text t      => s == t
  | list xs,     list ys     => sameItems xs ys
  | object m,    object n    => m.length == n.length && sameEntries m n
  | record k fs, record l gs => k == l && sameFields fs gs
  | _,           _           => false

/-- Equality of lists, item by item. -/
def sameItems : List (Value ρ) → List (Value ρ) → Bool
  | [],      []      => true
  | x :: xs, y :: ys => same x y && sameItems xs ys
  | _,       _       => false

/-- Whether every entry has an equal one under the same key of the second object. -/
def sameEntries : List (String × Value ρ) → List (String × Value ρ) → Bool
  | [],          _ => true
  | (k, x) :: m, n =>
      (match Keyed.get? n k with
        | some y => same x y
        | none   => false) && sameEntries m n

/-- Equality of the fields of two records of one kind. -/
def sameFields : List (FieldName × Value ρ) → List (FieldName × Value ρ) → Bool
  | [],           []           => true
  | (_, x) :: fs, (_, y) :: gs => same x y && sameFields fs gs
  | _,            _            => false

end

/-- Whether a value holds others. -/
def isContainer : Value ρ → Bool
  | list _     => true
  | object _   => true
  | record _ _ => true
  | _          => false

/-- Equality as guards test it: at the top a truth value equals truth values only, and a number
    that is undefined equals nothing. -/
def equals : Value ρ → Value ρ → Bool
  | bool a,   bool b   => a == b
  | bool _,   _        => false
  | _,        bool _   => false
  | number a, number b => Scalar.eq a b
  | x,        y        => same x y

end Value

end LessonVariants
