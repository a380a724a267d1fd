import LessonVariants.Proofs.Keyed
import LessonVariants.Wire.Checked

/-! # What reading yields

    Whatever a reader succeeds with is of a kind (`Checked.Yields`).  The kind of a record follows
    from those of its fields, of a list from that of its items, and of a map from that of its
    values. -/

namespace LessonVariants

namespace Checked

variable {α β : Type}

/-- Whatever reading succeeds with is of a kind. -/
def Yields (P : α → Prop) (c : Checked α) : Prop :=
  ∀ a, c = .ok a → P a

variable {P : α → Prop} {Q : β → Prop} {c : Checked α}

theorem Yields.any (c : Checked α) : c.Yields fun _ => True :=
  fun _ _ => trivial

theorem Yields.ok {a : α} (h : P a) : (Checked.ok a).Yields P := by
  intro b hb
  cases hb
  exact h

theorem Yields.fault (f : Fault) : (Checked.fault f : Checked α).Yields P :=
  fun _ h => nomatch h

theorem Yields.imp {R : α → Prop} (h : c.Yields P) (hPR : ∀ a, P a → R a) : c.Yields R :=
  fun a ha => hPR a (h a ha)

theorem Yields.map {f : α → β} (h : c.Yields P) (hf : ∀ a, P a → Q (f a)) : (f <$> c).Yields Q := by
  intro b hb
  cases c with
  | ok a =>
      cases hb
      exact hf a (h a rfl)
  | faulty is => exact nomatch hb

theorem Yields.seq {f : Checked (α → β)} (hf : f.Yields fun g => ∀ a, P a → Q (g a))
    (h : c.Yields P) : (f <*> c).Yields Q := by
  intro b hb
  cases f with
  | ok g =>
      cases c with
      | ok a =>
          cases hb
          exact hf g rfl a (h a rfl)
      | faulty is => exact nomatch hb
  | faulty is => cases c <;> exact nomatch hb

/-- What a further demand lets through meets it. -/
theorem Yields.andAlso (c : Checked α) {check : α → Option Fault}
    (h : ∀ a, check a = none → P a) : (c.andAlso check).Yields P := by
  intro a ha
  cases c with
  | ok b =>
      cases hcheck : check b with
      | none =>
          simp only [Checked.andAlso, hcheck, Checked.ok.injEq] at ha
          rw [← ha]
          exact h b hcheck
      | some f =>
          simp only [Checked.andAlso, hcheck] at ha
          exact nomatch ha
  | faulty is => exact nomatch ha

theorem Yields.under (h : c.Yields P) (key : String) : (c.under key).Yields P := by
  intro a ha
  cases c with
  | ok b =>
      cases ha
      exact h a rfl
  | faulty is => exact nomatch ha

end Checked

namespace Read

variable {ρ α : Type} {P : α → Prop} {read : Data ρ → Checked α}

theorem nullable_yields (h : ∀ d, (read d).Yields P) (d : Data ρ) :
    (nullable read d).Yields fun o => ∀ a, o = some a → P a := by
  have hsome : ∀ d, ((read d).map some).Yields fun o => ∀ a, o = some a → P a := by
    refine fun d => (h d).map fun a ha b hb => ?_
    cases hb
    exact ha
  cases d with
  | null => exact .ok fun a ha => nomatch ha
  | _ => exact hsome _

theorem field_yields {default : α} (hdefault : P default) (h : ∀ d, (read d).Yields P)
    (m : Keyed (Data ρ)) (name : FieldName) : (field m name default read).Yields P := by
  unfold field
  split
  · exact (h _).under _
  · exact .ok hdefault

theorem optional_yields (h : ∀ d, (read d).Yields P) (m : Keyed (Data ρ)) (name : FieldName) :
    (optional m name read).Yields fun o => ∀ a, o = some a → P a :=
  field_yields (fun _ h => nomatch h) (nullable_yields h) m name

theorem required_yields (h : ∀ d, (read d).Yields P) (m : Keyed (Data ρ)) (name : FieldName) :
    (required m name read).Yields P := by
  unfold required
  split
  · exact (h _).under _
  · exact fun _ h => nomatch h

theorem record_yields {read : Keyed (Data ρ) → Checked α} (h : ∀ m, (read m).Yields P)
    (d : Data ρ) : (record read d).Yields P := by
  cases d with
  | object m => exact h m
  | _ => exact .fault _

theorem items_yields (h : ∀ d, (read d).Yields P) (n : Nat) (ds : List (Data ρ)) :
    (items read n ds).Yields fun xs => ∀ x ∈ xs, P x := by
  induction ds generalizing n with
  | nil => exact .ok (List.forall_mem_nil _)
  | cons d ds ih =>
      refine .seq (.map ((h d).under _) ?_) (ih (n + 1))
      exact fun a ha xs hxs => List.forall_mem_cons.mpr ⟨ha, hxs⟩

theorem list_yields (h : ∀ d, (read d).Yields P) (d : Data ρ) :
    (list read d).Yields fun xs => ∀ x ∈ xs, P x := by
  cases d with
  | list ds => exact items_yields h 0 ds
  | _ => exact .fault _

theorem entries_yields (h : ∀ d, (read d).Yields P) (m : List (String × Data ρ)) :
    (entries read m).Yields fun es => ∀ e ∈ es, P e.2 := by
  induction m with
  | nil => exact .ok (List.forall_mem_nil _)
  | cons e m ih =>
      obtain ⟨k, d⟩ := e
      refine .seq (.map ((h d).under k) ?_) ih
      exact fun a ha es hes => List.forall_mem_cons.mpr ⟨ha, hes⟩

/-- A map that was read has each key once. -/
theorem keyed_yields (h : ∀ d, (read d).Yields P) (d : Data ρ) :
    (keyed read d).Yields (Keyed.Each P) := by
  cases d with
  | object m => exact (entries_yields h m).map fun es hes => Keyed.Each.ofEntries hes
  | _ => exact .fault _

end Read

end LessonVariants
