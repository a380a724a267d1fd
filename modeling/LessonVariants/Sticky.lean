import LessonVariants.Session.Read

/-! # Remembered choices

    A sticky record keeps a slot's variant the same over repeated views.  Records expire lazily:
    whether one still counts is decided when it is read. -/

namespace LessonVariants

variable {ρ : Type} [WireScalar ρ]

/-- Whether a record still counts: it has no lifetime, a lifetime of zero, or one that has not
    passed. -/
def StickyRecord.isLive (r : StickyRecord ρ) (now : ρ) : Bool :=
  match r.ttlMs with
  | none     => true
  | some ttl => Scalar.isZero ttl || !Scalar.lt (r.time + ttl) now

/-- Whether an entry holds a record that still counts. -/
def StickyEntry.isLive (e : StickyEntry ρ) (now : ρ) : Bool :=
  match e.record? with
  | some r => r.isLive now
  | none   => false

/-- Whether an entry is a record of the given scope.  Data that was not read as a record is none. -/
def StickyEntry.hasScope (scope : Scope) : StickyEntry ρ → Bool
  | record r => r.scope == scope
  | raw _    => false

namespace Session

/-- The record of a slot, if there is a readable one. -/
def stickyRecord? (s : Session ρ) (slotId : String) : Option (StickyRecord ρ) :=
  (s.sticky.get? slotId).bind StickyEntry.record?

/-- Whether the slot has a record that still counts. -/
def isStickyLive (s : Session ρ) (slotId : String) (now : ρ) : Bool :=
  match s.sticky.get? slotId with
  | some e => e.isLive now
  | none   => false

/-- Puts an entry in place of what the session holds for a slot. -/
def putSticky (s : Session ρ) (slotId : String) (e : StickyEntry ρ) : Session ρ :=
  { s with sticky := s.sticky.insert slotId e }

/-- The slots with a record of the given scope. -/
def slotsInScope (s : Session ρ) (scope : Scope) : List String :=
  (s.sticky.keep fun _ e => e.hasScope scope).keys

/-- Forgets every record of a scope, as when a lesson, a course or a session ends. -/
def endScope (s : Session ρ) (scope : Scope) : Session ρ :=
  { s with sticky := s.sticky.keep fun _ e => !e.hasScope scope }

end Session

end LessonVariants
