import LessonVariants.Number.Basic

/-! # The order of numbers

    Numbers are compared by their exact readings.  The order of readings is transitive; only the
    undefined reading stands apart, below nothing and above nothing. -/

namespace LessonVariants

namespace Reading

/-- A reading strictly below another one. -/
def Below : Reading → Reading → Prop
  | negInfinity, finite _    => True
  | negInfinity, posInfinity => True
  | finite p,    finite q    => p < q
  | finite _,    posInfinity => True
  | _,           _           => False

theorem compare?_eq_lt {a b : Reading} : a.compare? b = some .lt ↔ a.Below b := by
  cases a with
  | finite p =>
      cases b with
      | finite q =>
          show some (if p < q then Ordering.lt else if p = q then .eq else .gt) = some .lt ↔ p < q
          by_cases hlt : p < q
          · rw [if_pos hlt]
            exact iff_of_true rfl hlt
          · rw [if_neg hlt]
            refine iff_of_false ?_ hlt
            split <;> exact fun h => nomatch h
      | _ => simp [compare?, Below]
  | _ => cases b <;> simp [compare?, Below]

theorem compare?_eq_eq {a b : Reading} :
    a.compare? b = some .eq ↔ a = b ∧ a ≠ .undefined := by
  cases a with
  | finite p =>
      cases b with
      | finite q =>
          show some (if p < q then Ordering.lt else if p = q then .eq else .gt) = some .eq ↔ _
          by_cases hlt : p < q
          · rw [if_pos hlt]
            refine iff_of_false (fun h => nomatch h) ?_
            rintro ⟨heq, -⟩
            cases heq
            exact Rat.lt_irrefl hlt
          · rw [if_neg hlt]
            by_cases heq : p = q
            · rw [if_pos heq, heq]
              exact iff_of_true rfl ⟨rfl, fun h => nomatch h⟩
            · rw [if_neg heq]
              exact iff_of_false (fun h => nomatch h) (fun h => heq (Reading.finite.inj h.1))
      | _ => simp [compare?]
  | _ => cases b <;> simp [compare?]

theorem Below.trans {a b c : Reading} (h : a.Below b) (h' : b.Below c) : a.Below c := by
  -- only three finite readings need the order of the rationals
  cases a <;> cases b <;> cases c <;> first
    | exact trivial
    | exact absurd h (fun h => h)
    | exact absurd h' (fun h => h)
    | exact Rat.not_le.mp fun hle => Rat.not_le.mpr h' (Rat.le_trans hle (Rat.le_of_lt h))

/-- No reading is below itself. -/
theorem Below.irrefl (a : Reading) : ¬a.Below a := by
  cases a with
  | finite q => exact Rat.lt_irrefl
  | _ => exact fun h => h

/-- Of two defined readings, if the first is not below the second, the second is below the first or
    the same. -/
theorem compare?_total {a b : Reading} (ha : a ≠ .undefined) (hb : b ≠ .undefined)
    (h : a.compare? b ≠ some .lt) : b.compare? a = some .lt ∨ b.compare? a = some .eq := by
  cases a with
  | undefined => exact absurd rfl ha
  | finite p =>
      cases b with
      | undefined => exact absurd rfl hb
      | finite q =>
          have hle : ¬p < q := fun hlt => h (congrArg some (if_pos hlt))
          by_cases hlt : q < p
          · exact Or.inl (congrArg some (if_pos hlt))
          · have heq : q = p := Rat.le_antisymm (Rat.not_lt.mp hle) (Rat.not_lt.mp hlt)
            exact Or.inr (congrArg some ((if_neg hlt).trans (if_pos heq)))
      | negInfinity => exact Or.inl rfl
      | posInfinity => exact absurd rfl h
  | negInfinity =>
      cases b with
      | undefined => exact absurd rfl hb
      | negInfinity => exact Or.inr rfl
      | finite q => exact absurd rfl h
      | posInfinity => exact absurd rfl h
  | posInfinity =>
      cases b with
      | undefined => exact absurd rfl hb
      | posInfinity => exact Or.inr rfl
      | finite q => exact Or.inl rfl
      | negInfinity => exact Or.inl rfl

end Reading

namespace Scalar

variable {ρ : Type} [Scalar ρ] {a b c : ρ}

theorem lt_iff : lt a b = true ↔ (reading a).Below (reading b) := by
  rw [lt, beq_iff_eq, compare?, Reading.compare?_eq_lt]

theorem le_iff :
    le a b = true ↔
      (reading a).Below (reading b) ∨ reading a = reading b ∧ reading a ≠ .undefined := by
  rw [le, Bool.or_eq_true, beq_iff_eq, beq_iff_eq, compare?, Reading.compare?_eq_lt,
    Reading.compare?_eq_eq]

theorem lt_of_lt_of_le (h : lt a b = true) (h' : le b c = true) : lt a c = true := by
  rw [lt_iff] at h ⊢
  rcases le_iff.mp h' with hbelow | ⟨heq, -⟩
  · exact h.trans hbelow
  · rw [← heq]
    exact h

theorem le_trans (h : le a b = true) (h' : le b c = true) : le a c = true := by
  rcases le_iff.mp h with hbelow | ⟨heq, -⟩
  · have hlt := lt_of_lt_of_le (lt_iff.mpr hbelow) h'
    exact le_iff.mpr (Or.inl (lt_iff.mp hlt))
  · rw [le_iff] at h' ⊢
    rw [heq]
    exact h'

theorem le_of_lt (h : lt a b = true) : le a b = true :=
  le_iff.mpr (Or.inl (lt_iff.mp h))

theorem lt_trans (h : lt a b = true) (h' : lt b c = true) : lt a c = true :=
  lt_of_lt_of_le h (le_of_lt h')

theorem lt_of_le_of_lt (h : le a b = true) (h' : lt b c = true) : lt a c = true := by
  rcases le_iff.mp h with hbelow | ⟨heq, -⟩
  · exact lt_trans (lt_iff.mpr hbelow) h'
  · rw [lt_iff] at h' ⊢
    rw [heq]
    exact h'

/-- What lies below or is the same does not lie above. -/
theorem not_lt_of_le (h : le a b = true) : lt b a = false := by
  rw [← Bool.not_eq_true]
  intro hlt
  exact Reading.Below.irrefl _ (lt_iff.mp (lt_of_lt_of_le hlt h))

/-- Numbers are equal just if they denote the same. -/
theorem eq_iff : eq a b = true ↔ reading a = reading b ∧ reading a ≠ .undefined := by
  rw [eq, beq_iff_eq, compare?, Reading.compare?_eq_eq]

theorem eq_self (h : reading a ≠ .undefined) : eq a a = true :=
  eq_iff.mpr ⟨rfl, h⟩

/-- What lies below is not equal. -/
theorem eq_of_lt (h : lt a b = true) : eq a b = false := by
  rw [lt, beq_iff_eq] at h
  rw [eq, h]
  rfl

/-- What something lies below is defined. -/
theorem defined_of_lt (h : lt a b = true) : reading b ≠ .undefined := by
  intro hb
  rw [lt_iff, hb] at h
  cases hreading : reading a with
  | _ => rw [hreading] at h; exact h

/-- Nothing lies above an undefined number. -/
theorem lt_of_undefined (h : reading a = .undefined) (b : ρ) : lt a b = false := by
  rw [← Bool.not_eq_true, lt_iff, h]
  exact fun hlt => hlt

/-- Nothing equals an undefined number. -/
theorem eq_of_undefined (a : ρ) (h : reading b = .undefined) : eq a b = false := by
  rw [← Bool.not_eq_true, eq_iff, h]
  exact fun heq => heq.2 heq.1

/-- Defined numbers are comparable: what is not above is below or the same. -/
theorem le_of_not_lt (ha : reading a ≠ .undefined) (hb : reading b ≠ .undefined)
    (h : lt a b = false) : le b a = true := by
  rw [lt, beq_eq_false_iff_ne] at h
  rw [le, Bool.or_eq_true, beq_iff_eq, beq_iff_eq]
  exact Reading.compare?_total ha hb h

/-- In exact arithmetic every number is defined. -/
theorem reading_rat (q : Rat) : reading q ≠ .undefined := by
  show Reading.finite q ≠ .undefined
  exact fun h => nomatch h

/-- In exact arithmetic numbers are compared as rationals. -/
theorem lt_rat {p q : Rat} : lt p q = true ↔ p < q :=
  lt_iff

theorem le_rat {p q : Rat} : le p q = true ↔ p ≤ q := by
  refine le_iff.trans (Iff.trans ?_ Rat.le_iff_lt_or_eq.symm)
  exact or_congr Iff.rfl ⟨fun h => Reading.finite.inj h.1, fun h => ⟨congrArg _ h, reading_rat p⟩⟩

end Scalar

end LessonVariants
