import LessonVariants.Guard.Parser

/-! # Outcomes that may be errors

    How a chain of steps comes to its result: each step before the last one succeeds, or the
    first one that fails gives its error.  A computation within a limit comes to the result of one
    within a larger limit, or is cut short (`CutAt`). -/

namespace LessonVariants

variable {ε α β : Type}

/-- Two steps succeed together. -/
theorem bind_eq_ok {x : Except ε α} {f : α → Except ε β} {b : β} :
    x >>= f = .ok b ↔ ∃ a, x = .ok a ∧ f a = .ok b := by
  cases x with
  | ok a => simp [bind, Except.bind]
  | error e => simp [bind, Except.bind]

/-- Two steps fail with an error of the first, or with one of the second. -/
theorem bind_eq_error {x : Except ε α} {f : α → Except ε β} {e : ε} :
    x >>= f = .error e ↔ x = .error e ∨ ∃ a, x = .ok a ∧ f a = .error e := by
  cases x with
  | ok a => simp [bind, Except.bind]
  | error e' => simp [bind, Except.bind]

/-- A result that is carried on comes from a success. -/
theorem map_eq_ok {x : Except ε α} {f : α → β} {b : β} :
    x.map f = .ok b ↔ ∃ a, x = .ok a ∧ f a = b := by
  cases x with
  | ok a => simp [Except.map]
  | error e => simp [Except.map]

/-- An error is passed on as it is. -/
theorem map_eq_error {x : Except ε α} {f : α → β} {e : ε} :
    x.map f = .error e ↔ x = .error e := by
  cases x with
  | ok a => simp [Except.map]
  | error e' => simp [Except.map]

/-- A list of steps fails with the error of the first one that fails. -/
theorem mapM_eq_error {f : α → Except ε β} {xs : List α} {e : ε} :
    xs.mapM f = .error e ↔
      ∃ before x after, xs = before ++ x :: after ∧ (∀ y ∈ before, ∃ b, f y = .ok b) ∧
        f x = .error e := by
  induction xs with
  | nil =>
      refine iff_of_false (fun h => nomatch h) ?_
      rintro ⟨before, x, after, h, -⟩
      cases before <;> exact nomatch h
  | cons x xs ih =>
      rw [List.mapM_cons, bind_eq_error]
      constructor
      · -- the first step fails, or it succeeds and the failing one is further on
        rintro (hx | ⟨b, hx, hrest⟩)
        · exact ⟨[], x, xs, rfl, List.forall_mem_nil _, hx⟩
        · rcases bind_eq_error.mp hrest with hxs | ⟨bs, -, hpure⟩
          · obtain ⟨before, z, after, rfl, hbefore, hz⟩ := ih.mp hxs
            refine ⟨x :: before, z, after, rfl, ?_, hz⟩
            intro y hy
            rcases List.mem_cons.mp hy with rfl | hy
            · exact ⟨b, hx⟩
            · exact hbefore y hy
          · exact nomatch hpure
      · rintro ⟨before, z, after, heq, hbefore, hz⟩
        cases before with
        | nil =>
            cases heq
            exact Or.inl hz
        | cons y before =>
            cases heq
            obtain ⟨b, hb⟩ := hbefore x List.mem_cons_self
            refine Or.inr ⟨b, hb, bind_eq_error.mpr (Or.inl (ih.mpr ?_))⟩
            exact ⟨before, z, after, rfl, fun y hy => hbefore y (List.mem_cons_of_mem _ hy), hz⟩

/-- One outcome is another one, unless a limit is met before. -/
def CutAt (limit : ε) (x y : Except ε α) : Prop :=
  x = .error limit ∨ x = y

variable {limit : ε}

theorem CutAt.bind {x y : Except ε α} {f g : α → Except ε β} (hx : CutAt limit x y)
    (hf : ∀ a, CutAt limit (f a) (g a)) : CutAt limit (x >>= f) (y >>= g) := by
  rcases hx with hx | hx
  · rw [hx]
    exact Or.inl rfl
  · rw [hx]
    cases y with
    | error e => exact Or.inr rfl
    | ok a => exact hf a

theorem CutAt.map {x y : Except ε α} (f : α → β) (hx : CutAt limit x y) :
    CutAt limit (x.map f) (y.map f) := by
  rcases hx with hx | hx
  · rw [hx]
    exact Or.inl rfl
  · rw [hx]
    exact Or.inr rfl

/-- What is not cut short is the same without the limit. -/
theorem CutAt.eq {x y : Except ε α} (hx : CutAt limit x y) (h : x ≠ .error limit) : x = y :=
  hx.resolve_left h

end LessonVariants
