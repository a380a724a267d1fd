import LessonVariants.Proofs.Selection.Routes
import LessonVariants.Proofs.Session.Changes
import LessonVariants.Proofs.Session.Opening
import LessonVariants.Proofs.Wire.Views

/-! # Remembered choices are records or null

    Opening a session reads every remembered choice as a record, or keeps null in its place, and the
    operations of the engine write records only.  So all sessions that the engine builds
    (`Session.Built`) have the declared shape (`Session.Built.shaped`). -/

namespace LessonVariants

variable {ρ : Type} [WireScalar ρ]

theorem StickyEntry.ofData_isSettled (d : Data ρ) : (ofData d).IsSettled := by
  unfold ofData
  split
  · exact trivial
  · exact rfl

theorem StickyEntry.readAll_isSettled (d : Data ρ) : ∀ e ∈ readAll d, e.2.IsSettled := by
  cases d with
  | object m =>
      refine (Keyed.Each.ofEntries fun e he => ?_).all
      obtain ⟨e', -, rfl⟩ := List.mem_map.mp he
      exact ofData_isSettled e'.2
  | _ => exact fun e he => nomatch he

/-- The sessions that are built by opening one and by the operations of the engine. -/
inductive Session.Built : Session ρ → Prop where
  | create {settings : Settings ρ} {init : Data ρ} {s : Session ρ} :
      Session.create settings init = .ok s → Built s
  | update {s : Session ρ} (u : Update ρ) : Built s → Built (s.update u)
  | putSticky {s : Session ρ} (slotId : String) (r : StickyRecord ρ) :
      Built s → Built (s.putSticky slotId (.record r))
  | endScope {s : Session ρ} (scope : Scope) : Built s → Built (s.endScope scope)
  | select {σ : Type} {s s' : Session ρ} {settings : Settings ρ} {judge : Judge σ ρ}
      {slot : Slot ρ} {policy : Policy ρ} {trace : Bool} {now : ρ} {st st' : σ}
      {result : SelectionResult ρ} :
      Built s →
      select settings judge slot s policy trace now st = (.ok (result, s'), st') → Built s'

namespace Session

theorem create_isSettled {settings : Settings ρ} {init : Data ρ} {s : Session ρ}
    (h : create settings init = .ok s) : ∀ e ∈ s.sticky, e.2.IsSettled := by
  have hfields := (readBy.eq_ok _ _).mp (read_completed h)
  simp only [fields, List.forall_mem_cons, Field.holds_nested] at hfields
  obtain ⟨-, -, -, -, -, hsticky, -⟩ := hfields
  have hread : ∀ d : Data ρ, (Checked.ok (StickyEntry.readAll d)).Yields
      fun m => ∀ e ∈ m, e.2.IsSettled := fun d => .ok (StickyEntry.readAll_isSettled d)
  exact Read.field_yields (List.forall_mem_nil _) hread _ _ _ hsticky

omit [WireScalar ρ] in
theorem putSticky_isSettled {s : Session ρ} (h : ∀ e ∈ s.sticky, e.2.IsSettled) (slotId : String)
    (r : StickyRecord ρ) : ∀ e ∈ (s.putSticky slotId (.record r)).sticky, e.2.IsSettled := by
  intro e he
  rcases Keyed.mem_insert he with rfl | he
  · exact trivial
  · exact h e he

/-- **Every remembered choice of a session that the engine builds is a record or null.** -/
theorem Built.isSettled {s : Session ρ} (h : s.Built) : ∀ e ∈ s.sticky, e.2.IsSettled := by
  induction h with
  | create h => exact create_isSettled h
  | update u _ ih =>
      rw [update_sticky]
      exact ih
  | putSticky slotId r _ ih => exact putSticky_isSettled ih slotId r
  | endScope scope _ ih => exact fun e he => ih e (List.mem_filter.mp he).1
  | select _ hselect ih =>
      obtain ⟨d, -, -, ⟨-, rfl⟩ | ⟨i, -, hcommit⟩⟩ := select_eq_ok.mp hselect
      · exact ih
      · obtain ⟨r, -, rfl⟩ := Checked.map_eq_ok.mp hcommit
        exact putSticky_isSettled ih _ _

theorem Built.shaped {s : Session ρ} (h : s.Built) : Shaped schema s.view :=
  Session.shaped h.isSettled

end Session

end LessonVariants
