import LessonVariants.Guard.Eval
import LessonVariants.Guard.Parser
import LessonVariants.Slot.View

/-! # Compiling guards

    A guard is compiled into a predicate over activations.  No guard and blank text give the one
    predicate that always holds; a test of the caller's own is used as it is; guard text is parsed
    once and its predicate kept under the exact text.  Guards fail closed: text that does not
    parse, and an expression that cannot be evaluated, hide the variant instead of aborting the
    decision.  What is beyond repair (an integer of too many digits, an infinite index) is passed
    on.

    Parsing and evaluating take place in the room that the caller's stack leaves.  The cache keeps what
    parsing came to, also where it ran out of that room. -/

namespace LessonVariants

/-- The levels of nesting that the stack of a caller leaves, for parsing a guard and for evaluating
    it. -/
structure Room where
  parsing    : Nat
  evaluation : Nat
  deriving DecidableEq, Repr

/-- The three values that a guard can see. -/
structure Activation (ρ : Type) where
  session : Session ρ
  slotId  : String
  variant : Variant ρ

/-- The values of the roots. -/
def Activation.scope {ρ : Type} [Scalar ρ] (a : Activation ρ) : Root → Value ρ
  | .session => a.session.view
  | .slotId  => .text a.slotId
  | .variant => a.variant.view

/-- Guard text after compilation: its expression, or none if it does not parse.  The serial number
    tells apart what was compiled at different times. -/
structure Compiled where
  serial : Nat
  expr?  : Option Expr
  deriving DecidableEq

/-- A predicate over activations. -/
inductive Predicate (ρ : Type) where
  | always
  | test (run : Session ρ → String → Except CallerFailure Bool)
  | compiled (c : Compiled)

/-- What a guard can fail with, apart from failing closed. -/
inductive GuardFailure (ρ : Type) where
  | malformed (m : Malformed)
  | fatal (e : EvalError ρ)
  | caller (f : CallerFailure)

/-- The truth of an expression among values of the roots, with a number of levels left; an expression
    without a value is false. -/
def Expr.holds {ρ : Type} [Scalar ρ] (e : Expr) (scope : Root → Value ρ) (room : Nat) :
    Except (GuardFailure ρ) Bool :=
  match e.evalWithin scope room with
  | .ok v      => .ok v.isTrue
  | .error err => if err.isFatal then .error (.fatal err) else .ok false

/-- Runs a predicate on an activation whose roots have the given values, with a number of levels
    left. -/
def Predicate.runIn {ρ : Type} [Scalar ρ] (p : Predicate ρ) (scope : Root → Value ρ)
    (a : Activation ρ) (room : Nat) : Except (GuardFailure ρ) Bool :=
  match p with
  | always => .ok true
  | test run =>
      match run a.session a.slotId with
      | .ok b    => .ok b
      | .error f => .error (.caller f)
  | compiled c =>
      match c.expr? with
      | none   => .ok false
      | some e => e.holds scope room

/-- Runs a predicate, with a number of levels left. -/
def Predicate.run {ρ : Type} [Scalar ρ] (p : Predicate ρ) (a : Activation ρ) (room : Nat) :
    Except (GuardFailure ρ) Bool :=
  p.runIn a.scope a room

/-- A cache of compiled guard text, and the serial number of the next compilation. -/
structure GuardCache where
  entries : Keyed Compiled := []
  next    : Nat            := 0

namespace GuardCache

/-- The number of cached texts. -/
def size (cache : GuardCache) : Nat :=
  cache.entries.length

/-- Forgets all compiled text.  Serial numbers go on. -/
def clear (cache : GuardCache) : GuardCache :=
  { cache with entries := [] }

/-- The expression of guard text, none if it does not parse within an allowance of nesting.  An integer
    of too many digits is an error of its own. -/
def parse (allowance : Nat) (source : String) : Except Malformed (Option Expr) :=
  match parseGuard allowance source with
  | .ok e                    => .ok (some e)
  | .error .oversizedInteger => .error .oversizedInteger
  | .error _                 => .ok none

/-- The compiled form of text that is not blank, from the cache or anew within an allowance of
    nesting. -/
def compileText (cache : GuardCache) (allowance : Nat) (source : String) :
    Except Malformed (Compiled × GuardCache) :=
  match cache.entries.get? source with
  | some c => .ok (c, cache)
  | none   =>
      match parse allowance source with
      | .error m  => .error m
      | .ok expr? =>
          let c : Compiled := ⟨cache.next, expr?⟩
          .ok (c, ⟨cache.entries.insert source c, cache.next + 1⟩)

/-- The predicate of a guard, compiled within an allowance of nesting. -/
def compile {ρ : Type} (cache : GuardCache) (allowance : Nat) (guard : Option (Guard ρ)) :
    Except Malformed (Predicate ρ × GuardCache) :=
  match guard with
  | none            => .ok (.always, cache)
  | some (.test t)  => .ok (.test t, cache)
  | some (.text s)  =>
      if isBlankText s then .ok (.always, cache)
      else (cache.compileText allowance s).map fun (c, cache) => (.compiled c, cache)

/-- Compiles the guard of an activation's variant and runs it, in the room of the caller and with the
    given values of the roots.  The cache is kept either way. -/
def judgeIn {ρ : Type} [Scalar ρ] (room : Room) (scope : Root → Value ρ) (a : Activation ρ)
    (cache : GuardCache) : Except (GuardFailure ρ) Bool × GuardCache :=
  match cache.compile room.parsing a.variant.guard with
  | .error m       => (.error (.malformed m), cache)
  | .ok (p, cache) => (p.runIn scope a room.evaluation, cache)

/-- Compiles the guard of an activation's variant and runs it, in the room of the caller. -/
def judge {ρ : Type} [Scalar ρ] (room : Room) (a : Activation ρ) (cache : GuardCache) :
    Except (GuardFailure ρ) Bool × GuardCache :=
  judgeIn room a.scope a cache

end GuardCache

/-- What an author is told about guard text: it is valid, or why it is not. -/
inductive Verdict where
  | valid
  | invalid (reason : String)
  deriving DecidableEq, Repr

/-- Checks guard text without evaluating it, within an allowance of nesting.  Blank text is valid: it
    means no guard. -/
def checkGuard (allowance : Nat) (source : String) : Except Malformed Verdict :=
  if isBlankText source then .ok .valid
  else
    match parseGuard allowance source with
    | .ok _                    => .ok .valid
    | .error (.complaint c p)  => .ok (.invalid (c.message p))
    | .error .tooDeep          => .ok (.invalid "Expression is nested too deeply")
    | .error .oversizedInteger => .error .oversizedInteger

end LessonVariants
