import LessonVariants.Keyed
import LessonVariants.Number.Basic

/-! # Free-form data

    What travels between the engine and its callers: the values of JSON, over any scalars. -/

namespace LessonVariants

/-- A JSON value.  Objects keep their keys in order. -/
inductive Data (ρ : Type) where
  | null
  | bool   (value : Bool)
  | number (value : ρ)
  | text   (value : String)
  | list   (items : List (Data ρ))
  | object (entries : List (String × Data ρ))

namespace Data

variable {ρ : Type}

/-- The value under a key of an object; nothing if there is none or this is no object. -/
def get? (d : Data ρ) (key : String) : Option (Data ρ) :=
  match d with
  | object m => Keyed.get? m key
  | _        => none

/-- Whether a value counts as absent: null, false, zero, and every empty text, list or object. -/
def isVoid [Scalar ρ] : Data ρ → Bool
  | null     => true
  | bool b   => !b
  | number n => Scalar.isZero n
  | text s   => s.isEmpty
  | list xs  => xs.isEmpty
  | object m => m.isEmpty

/-- The number that data counts as; a truth value counts as one or zero. -/
def amount? [Scalar ρ] : Data ρ → Option ρ
  | number n => some n
  | bool b   => some (Scalar.ofInt (if b then 1 else 0))
  | _        => none

end Data

end LessonVariants
