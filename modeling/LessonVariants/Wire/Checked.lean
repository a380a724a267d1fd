import LessonVariants.Guard.Value
import LessonVariants.Number.Numeral
import LessonVariants.Vocabulary

/-! # Reading free-form data

    Data from outside is read into the engine's types field by field.  All faults of a value are
    collected, each with the place where it lies.  Reading is lenient where the meaning is clear:
    numbers may come as text and truth values as words. -/

namespace LessonVariants

/-- What can be wrong with a value. -/
inductive Fault where
  | missing | notRecord | notText | unknownWord
  | notReal | unreadableReal
  | notInteger | unreadableInteger | fractionalInteger | oversizedInteger | infiniteInteger
  | notFlag | unreadableFlag
  | notList | notObject | notCallable
  | tooSmall | tooLarge
  deriving DecidableEq, Repr

/-- The name of a fault. -/
def Fault.label : Fault → String
  | missing           => "missing"
  | notRecord         => "model_type"
  | notText           => "string_type"
  | unknownWord       => "literal_error"
  | notReal           => "float_type"
  | unreadableReal    => "float_parsing"
  | notInteger        => "int_type"
  | unreadableInteger => "int_parsing"
  | fractionalInteger => "int_from_float"
  | oversizedInteger  => "int_parsing_size"
  | infiniteInteger   => "finite_number"
  | notFlag           => "bool_type"
  | unreadableFlag    => "bool_parsing"
  | notList           => "list_type"
  | notObject         => "dict_type"
  | notCallable       => "callable_type"
  | tooSmall          => "greater_than_equal"
  | tooLarge          => "less_than_equal"

/-- A fault at a place, given by the keys and indices that lead to it. -/
structure Issue where
  place : List String
  fault : Fault
  deriving DecidableEq, Repr

/-- The place of an issue in one text. -/
def Issue.location (i : Issue) : String :=
  ".".intercalate i.place

/-- Issues in the order of their locations, and at one location of their faults. -/
def sortIssues (issues : List Issue) : List Issue :=
  issues.mergeSort fun a b =>
    a.location < b.location || (a.location == b.location && a.fault.label ≤ b.fault.label)

/-- The result of reading: a value, or all issues that were found. -/
inductive Checked (α : Type) where
  | ok (value : α)
  | faulty (issues : List Issue)
  deriving Repr

namespace Checked

variable {α β : Type}

/-- Two readings of which both must succeed; the issues of both are kept. -/
def ap : Checked (α → β) → Checked α → Checked β
  | ok f,      ok a      => ok (f a)
  | ok _,      faulty is => faulty is
  | faulty is, ok _      => faulty is
  | faulty is, faulty js => faulty (is ++ js)

/-- Applies a function to what was read. -/
def map (f : α → β) : Checked α → Checked β
  | ok a      => ok (f a)
  | faulty is => faulty is

instance : Applicative Checked where
  pure  := ok
  map   := map
  seq f a := ap f (a ())

/-- A single fault of the value itself. -/
def fault (f : Fault) : Checked α :=
  faulty [⟨[], f⟩]

/-- Moves all issues below a key. -/
def under (key : String) : Checked α → Checked α
  | ok a      => ok a
  | faulty is => faulty (is.map fun i => ⟨key :: i.place, i.fault⟩)

/-- A further demand on what was read. -/
def andAlso (check : α → Option Fault) : Checked α → Checked α
  | ok a      => match check a with
    | none   => ok a
    | some f => fault f
  | faulty is => faulty is

/-- The value, if reading succeeded. -/
def value? : Checked α → Option α
  | ok a     => some a
  | faulty _ => none

end Checked

/-- What reading needs to know about scalars beyond their arithmetic: the real number that stands
    for a scalar or a text, and whether a scalar is an integer by its kind. -/
class WireScalar (ρ : Type) extends Scalar ρ where
  toReal?     : ρ → Option ρ
  realOfText? : String → Option ρ
  isInteger   : ρ → Bool

instance : WireScalar Number where
  toReal? n     := if n.hasFloat then some (.float n.toFloat) else none
  realOfText? s := (readFloat? s).map .float
  isInteger
    | .int _   => true
    | .float _ => false

/-- The rational that a text without underscores denotes. -/
def readPlainRat? (cs : List Char) : Option Rat :=
  let (negative, body) := spanSign cs
  (readDecimal? body).map fun d => if negative then -d.toRat else d.toRat

instance : WireScalar Rat where
  toReal?       := some
  realOfText? s :=
    (readPlainRat? (trimEnds isWhiteSpace s.toList)).or
      ((withoutUnderscores? s.toList).bind readPlainRat?)
  isInteger q   := q.den == 1

namespace Read

variable {ρ : Type} [WireScalar ρ] {α : Type}

/-- Text is taken as it is. -/
def text : Data ρ → Checked String
  | .text s => .ok s
  | _       => .fault .notText

/-- A word of a closed vocabulary. -/
def word [Vocabulary α] : Data ρ → Checked α
  | .text s =>
      match Vocabulary.ofLabel? s with
      | some a => .ok a
      | none   => .fault .unknownWord
  | _ => .fault .unknownWord

/-- A real number: a number, a truth value as one or zero, or numeric text. -/
def real : Data ρ → Checked ρ
  | .number n =>
      match WireScalar.toReal? n with
      | some x => .ok x
      | none   => .fault .notReal
  | .bool b => .ok (Scalar.ofDecimal ⟨if b then 1 else 0, 0⟩)
  | .text s =>
      match WireScalar.realOfText? s with
      | some x => .ok x
      | none   => .fault .unreadableReal
  | _ => .fault .notReal

/-- Whether an integer has a place in 64 bits. -/
def fitsWord (i : Int) : Bool :=
  -0x8000000000000000 < i && i < 0x8000000000000000

/-- An integer: a number without fraction, a truth value as one or zero, or text of digits.  A
    number that is no integer by its kind has to fit into 64 bits. -/
def integer : Data ρ → Checked Int
  | .number n =>
      match Scalar.reading n with
      | .finite q =>
          if q.den ≠ 1 then .fault .fractionalInteger
          else if WireScalar.isInteger n || fitsWord q.num then .ok q.num
          else .fault .oversizedInteger
      | _ => .fault .infiniteInteger
  | .bool b => .ok (if b then 1 else 0)
  | .text s =>
      match readInteger s with
      | .ok i               => .ok i
      | .error .unreadable  => .fault .unreadableInteger
      | .error .oversized   => .fault .oversizedInteger
  | _ => .fault .notInteger

/-- The words for false. -/
def falseWords : List String := ["0", "off", "f", "false", "n", "no"]

/-- The words for true. -/
def trueWords : List String := ["1", "on", "t", "true", "y", "yes"]

/-- Whether a scalar is close enough to a truth value to be an unreadable one. -/
def isFlagLike (n : ρ) (q : Rat) : Bool :=
  q.den == 1 && (fitsWord q.num || WireScalar.isInteger n && q.num == -0x8000000000000000)

/-- A truth value: itself, one or zero, or a word in any case of letters. -/
def flag : Data ρ → Checked Bool
  | .bool b => .ok b
  | .number n =>
      match Scalar.reading n with
      | .finite q =>
          if q = 0 then .ok false
          else if q = 1 then .ok true
          else if isFlagLike n q then .fault .unreadableFlag
          else .fault .notFlag
      | _ => .fault .notFlag
  | .text s =>
      let w := String.ofList (s.toList.map Char.toLower)
      if w ∈ falseWords then .ok false
      else if w ∈ trueWords then .ok true
      else .fault .unreadableFlag
  | _ => .fault .notFlag

/-- Null, or a value. -/
def nullable (read : Data ρ → Checked α) : Data ρ → Checked (Option α)
  | .null => .ok none
  | d     => (read d).map some

/-- The items of a list, with their indices as places. -/
def items (read : Data ρ → Checked α) : Nat → List (Data ρ) → Checked (List α)
  | _, []      => .ok []
  | n, d :: ds => List.cons <$> (read d).under (toString n) <*> items read (n + 1) ds

/-- A list. -/
def list (read : Data ρ → Checked α) : Data ρ → Checked (List α)
  | .list ds => items read 0 ds
  | _        => .fault .notList

/-- The entries of an object, with their keys as places. -/
def entries (read : Data ρ → Checked α) : List (String × Data ρ) → Checked (List (String × α))
  | []          => .ok []
  | (k, d) :: m => (fun a es => (k, a) :: es) <$> (read d).under k <*> entries read m

/-- A map. -/
def keyed (read : Data ρ → Checked α) : Data ρ → Checked (Keyed α)
  | .object m => (entries read m).map Keyed.ofEntries
  | _         => .fault .notObject

/-- Free-form entries, kept as they are. -/
def freeForm : Data ρ → Checked (Keyed (Data ρ))
  | .object m => .ok m
  | _         => .fault .notObject

/-- A record, from the entries of an object. -/
def record (read : Keyed (Data ρ) → Checked α) : Data ρ → Checked α
  | .object m => read m
  | _         => .fault .notRecord

/-- The entry of a field, under its wire name or else under its internal name. -/
def entry? (m : Keyed (Data ρ)) (name : FieldName) : Option (String × Data ρ) :=
  match Keyed.get? m name.wire with
  | some d => some (name.wire, d)
  | none   => (Keyed.get? m name.internal).map fun d => (name.internal, d)

/-- A field that may be left out; its default then stands. -/
def field (m : Keyed (Data ρ)) (name : FieldName) (default : α) (read : Data ρ → Checked α) :
    Checked α :=
  match entry? m name with
  | some (k, d) => (read d).under k
  | none        => .ok default

/-- A field that may be left out or null. -/
def optional (m : Keyed (Data ρ)) (name : FieldName) (read : Data ρ → Checked α) :
    Checked (Option α) :=
  field m name none (nullable read)

/-- A field that has to be there. -/
def required (m : Keyed (Data ρ)) (name : FieldName) (read : Data ρ → Checked α) : Checked α :=
  match entry? m name with
  | some (k, d) => (read d).under k
  | none        => .faulty [⟨[name.wire], .missing⟩]

end Read

end LessonVariants
