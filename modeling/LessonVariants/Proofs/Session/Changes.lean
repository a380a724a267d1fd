import LessonVariants.Session.Update
import LessonVariants.Sticky

/-! # What changes a session

    The updates of a session leave its remembered choices and its overrides alone.  Ending a scope
    leaves the records of the other scopes, and writing a record leaves those of the other
    slots. -/

namespace LessonVariants

variable {ρ : Type}

/-- What the learner does. -/
inductive Update (ρ : Type) where
  | answer (alpha : ρ) (correct : Bool)
  | latency (alpha : ρ) (clip : LatencyClip ρ) (observed : ρ)
  | idle (delta : ρ)
  | theme (p : Preference ρ)
  | skillAnswer (skill : String) (alpha : ρ) (correct : Bool) (now : ρ)
  | seen (slotId variantId : String)
  | event (e : TraceEvent ρ)

/-- The session after an update. -/
def Session.update [Scalar ρ] (s : Session ρ) : Update ρ → Session ρ
  | .answer alpha correct                => s.recordAnswer alpha correct
  | .latency alpha clip observed         => s.recordLatency alpha clip observed
  | .idle delta                          => s.addIdle delta
  | .theme p                             => s.preferTheme p
  | .skillAnswer skill alpha correct now => s.recordSkillAnswer skill alpha correct now
  | .seen slotId variantId               => s.recordSeen slotId variantId
  | .event e                             => s.recordEvent e

namespace Session

@[simp] theorem update_sticky [Scalar ρ] (s : Session ρ) (u : Update ρ) :
    (s.update u).sticky = s.sticky := by
  cases u <;> rfl

@[simp] theorem update_overrides [Scalar ρ] (s : Session ρ) (u : Update ρ) :
    (s.update u).overrides = s.overrides := by
  cases u <;> rfl

/-- Reading a slot after an entry was put there or elsewhere. -/
theorem putSticky_get? (s : Session ρ) (slotId key : String) (e : StickyEntry ρ) :
    (s.putSticky slotId e).sticky.get? key = if key = slotId then some e else s.sticky.get? key :=
  Keyed.get?_insert s.sticky slotId key e

theorem putSticky_get?_self (s : Session ρ) (slotId : String) (e : StickyEntry ρ) :
    (s.putSticky slotId e).sticky.get? slotId = some e := by
  rw [putSticky_get?, if_pos rfl]

/-- A record of another scope outlasts the end of a scope. -/
theorem endScope_get? {s : Session ρ} {scope : Scope} {key : String} {r : StickyRecord ρ}
    (h : s.sticky.get? key = some (.record r)) (hscope : r.scope ≠ scope) :
    (s.endScope scope).sticky.get? key = some (.record r) := by
  have hkept : (!(StickyEntry.record r).hasScope scope) = true := by
    rw [StickyEntry.hasScope, beq_false_of_ne hscope]
    rfl
  exact Keyed.get?_keep (p := fun _ e => !e.hasScope scope) h hkept

end Session

end LessonVariants
