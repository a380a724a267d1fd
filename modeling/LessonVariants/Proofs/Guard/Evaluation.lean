import LessonVariants.Proofs.Guard.Depth

/-! # How evaluation fails

    Evaluation within an allowance gives the value of evaluation within a larger one, or runs out
    (`Expr.evalWithin_cut`).

    Of all that can go wrong in a guard only two things are beyond what a guard may fail with: a list
    is read at an index that is no finite number, or an error is to be told of a value in which an
    integer has too many digits.  Whether evaluation comes to such a place is told by `Expr.Overruns`,
    one rule for each way to it, and that it fails beyond repair just then is `Expr.overruns_iff`. -/

namespace LessonVariants

/-! ## The allowance -/

/-- A computation that nothing allows is cut short; otherwise one level is spent on both sides. -/
theorem CutAt.of_succ {ε α : Type} {limit : ε} (f : Nat → Except ε α) (hzero : f 0 = .error limit)
    (hsucc : ∀ d k, d ≤ k → CutAt limit (f (d + 1)) (f (k + 1))) :
    ∀ {d k : Nat}, d ≤ k → CutAt limit (f d) (f k) := by
  intro d k hdk
  cases d with
  | zero => exact Or.inl hzero
  | succ d =>
      obtain ⟨k, rfl⟩ : ∃ j, k = j + 1 := ⟨k - 1, by omega⟩
      exact hsucc d k (Nat.le_of_succ_le_succ hdk)

variable {ρ : Type}

/-- A smaller allowance gives the same value, or runs out. -/
theorem Expr.evalWithin_cut [Scalar ρ] (scope : Root → Value ρ) (e : Expr) :
    ∀ {d k : Nat}, d ≤ k → CutAt .tooDeep (e.evalWithin scope d) (e.evalWithin scope k) := by
  induction e with
  | literal l => exact .of_succ (evalWithin scope _) rfl fun d k _ => Or.inr rfl
  | path r ss => exact .of_succ (evalWithin scope _) rfl fun d k _ => Or.inr rfl
  | not e ih =>
      exact .of_succ (evalWithin scope _) rfl fun d k hdk => (ih hdk).bind fun v => Or.inr rfl
  | negate e ih =>
      refine .of_succ (evalWithin scope _) rfl fun d k hdk => (ih hdk).bind fun v => ?_
      cases v with
      | number n => exact Or.inr rfl
      | _ => exact (EvalError.told_cut hdk).imp (congrArg _) (congrArg _)
  | compare c l r ihl ihr =>
      refine .of_succ (evalWithin scope _) rfl fun d k hdk => ?_
      exact (ihl hdk).bind fun a => (ihr hdk).bind fun b =>
        (Value.compare_cut hdk).bind fun t => Or.inr rfl
  | and l r ihl ihr =>
      -- both allowances give the left side the same value, so the right side is evaluated with both
      -- or with neither
      refine .of_succ (evalWithin scope _) rfl fun d k hdk => (ihl hdk).bind fun a => ?_
      split
      · exact (ihr hdk).bind fun b => Or.inr rfl
      · exact Or.inr rfl
  | or l r ihl ihr =>
      refine .of_succ (evalWithin scope _) rfl fun d k hdk => (ihl hdk).bind fun a => ?_
      split
      · exact Or.inr rfl
      · exact (ihr hdk).bind fun b => Or.inr rfl

/-! ## Failing beyond repair -/

/-- An outcome beyond what a guard may fail with. -/
def Fatal {α : Type} (x : Except (EvalError ρ) α) : Prop :=
  ∃ err, x = .error err ∧ err.isFatal = true

theorem not_fatal_ok {α : Type} (a : α) : ¬Fatal (.ok a : Except (EvalError ρ) α) := by
  rintro ⟨err, h, -⟩
  exact nomatch h

theorem fatal_error {α : Type} {err : EvalError ρ} :
    Fatal (.error err : Except (EvalError ρ) α) ↔ err.isFatal = true := by
  constructor
  · rintro ⟨err', h, hfatal⟩
    cases h
    exact hfatal
  · intro hfatal
    exact ⟨err, rfl, hfatal⟩

/-- Two steps fail beyond repair in the first, or in the second. -/
theorem fatal_bind {α β : Type} {x : Except (EvalError ρ) α} {f : α → Except (EvalError ρ) β} :
    Fatal (x >>= f) ↔ Fatal x ∨ ∃ a, x = .ok a ∧ Fatal (f a) := by
  cases x with
  | ok a => simp [bind, Except.bind, not_fatal_ok]
  | error err => simp [bind, Except.bind, fatal_error]

variable [Scalar ρ]

/-! ## The steps of a path -/

/-- A value by which a path can step: no container, as every constant. -/
theorem Segment.toValue_simple (s : Segment) : (s.toValue : Value ρ).isContainer = false := by
  cases s <;> rfl

/-- A step fails beyond repair just if a list is read at an index that is no finite number. -/
theorem Value.member_fatal {walked : Walked ρ} {value key : Value ρ}
    (hkey : key.isContainer = false) :
    Fatal (member walked value key) ↔
      ∃ xs n, value = .list xs ∧ key = .number n ∧ ∀ q, Scalar.reading n ≠ .finite q := by
  constructor
  · intro h
    cases value with
    | list xs =>
        cases key with
        | number n =>
            refine ⟨xs, n, rfl, rfl, fun q hq => ?_⟩
            simp only [member, hq] at h
            split at h
            · exact not_fatal_ok _ h
            · exact Bool.false_ne_true (fatal_error.mp h)
        | _ => exact absurd (fatal_error.mp h) Bool.false_ne_true
    | object m =>
        cases key with
        | text s =>
            simp only [member] at h
            split at h
            · exact absurd h (not_fatal_ok _)
            · exact absurd (fatal_error.mp h) Bool.false_ne_true
        | _ =>
            simp only [member, hkey, Bool.false_eq_true, if_false] at h
            exact absurd (fatal_error.mp h) Bool.false_ne_true
    | record kind fields =>
        cases key with
        | text s =>
            simp only [member] at h
            split at h
            · exact absurd h (not_fatal_ok _)
            · exact absurd (fatal_error.mp h) Bool.false_ne_true
        | _ => exact absurd (fatal_error.mp h) Bool.false_ne_true
    | _ => exact absurd (fatal_error.mp h) Bool.false_ne_true
  · rintro ⟨xs, n, rfl, rfl, hn⟩
    cases hreading : Scalar.reading n with
    | finite q => exact absurd hreading (hn q)
    | undefined => exact ⟨.undefinedIndex, by simp only [member, hreading], rfl⟩
    | negInfinity => exact ⟨.infiniteIndex, by simp only [member, hreading], rfl⟩
    | posInfinity => exact ⟨.infiniteIndex, by simp only [member, hreading], rfl⟩

/-- Whether following a path comes to a list that is to be read at no finite index. -/
inductive Value.Overindexes : Value ρ → List (Value ρ) → Prop where
  | here {xs : List (Value ρ)} {n : ρ} {keys : List (Value ρ)} :
      (∀ q, Scalar.reading n ≠ .finite q) → Overindexes (.list xs) (.number n :: keys)
  | later {value key next : Value ρ} {keys : List (Value ρ)} (walked : Walked ρ) :
      member walked value key = .ok next → Overindexes next keys → Overindexes value (key :: keys)

/-- Where a step leads does not depend on how the value was reached. -/
theorem Value.member_walked (walked walked' : Walked ρ) (value key : Value ρ) :
    (member walked value key).toOption = (member walked' value key).toOption := by
  unfold member
  split
  · split
    · split <;> rfl
    · rfl
  · split
    · split <;> rfl
    · split <;> rfl
  · split
    · split
      · rfl
      · rfl
      · rfl
      · split <;> rfl
    · rfl
  · rfl

theorem Value.member_ok_of {walked walked' : Walked ρ} {value key next : Value ρ}
    (h : member walked value key = .ok next) : member walked' value key = .ok next := by
  have hsame := member_walked walked walked' value key
  rw [h] at hsame
  cases hm : member walked' value key with
  | error e => rw [hm] at hsame; exact nomatch hsame
  | ok v => rw [hm] at hsame; exact congrArg Except.ok (Option.some.inj hsame).symm

/-- Following a path fails beyond repair just if it comes to a list read at no finite index. -/
theorem Value.follow_fatal {keys : List (Value ρ)} (hkeys : ∀ key ∈ keys, key.isContainer = false) :
    ∀ {value : Value ρ} {walked : Walked ρ},
      Fatal (follow value walked keys) ↔ value.Overindexes keys := by
  induction keys with
  | nil =>
      intro value walked
      exact iff_of_false (not_fatal_ok value) (fun h => nomatch h)
  | cons key keys ih =>
      intro value walked
      have hkey := hkeys key List.mem_cons_self
      have hrest : ∀ k ∈ keys, k.isContainer = false :=
        fun k hk => hkeys k (List.mem_cons_of_mem key hk)
      -- a path fails at its first step, or further on from where that leads
      refine fatal_bind.trans ⟨?_, fun h => ?_⟩
      · rintro (hmember | ⟨next, hnext, hfollow⟩)
        · obtain ⟨xs, n, rfl, rfl, hn⟩ := (member_fatal hkey).mp hmember
          exact .here hn
        · exact .later walked hnext ((ih hrest).mp hfollow)
      · cases h with
        | here hn => exact Or.inl ((member_fatal hkey).mpr ⟨_, _, rfl, rfl, hn⟩)
        | later walked' hnext hover =>
            -- the way behind only shows in messages, so the step leads to the same value
            exact Or.inr ⟨_, member_ok_of hnext, (ih hrest).mpr hover⟩

/-! ## Expressions -/

/-- Comparing two values is beyond repair just if they are asked for an order that they do not have,
    and an integer of too many digits keeps them from being shown. -/
theorem Value.compare_fatal {d : Nat} {onePlace : Bool} {c : Comparator} {a b : Value ρ} :
    Fatal (compare d onePlace c a b) ↔
      c.isOrder = true ∧ ordering? a b = none ∧ itemsObstacle? [a, b] d = some .digits := by
  cases hc : c.isOrder with
  | true =>
      cases ho : ordering? a b with
      | some o =>
          rw [compare_of_ordering hc ho]
          exact iff_of_false (not_fatal_ok _) fun h => nomatch h.2.1
      | none =>
          rw [compare_of_no_ordering hc ho, fatal_error, EvalError.told_isFatal rfl]
          exact ⟨fun h => ⟨rfl, rfl, h⟩, fun h => h.2.2⟩
  | false =>
      obtain ⟨f, hf⟩ := compare_of_not_order (ρ := ρ) hc
      rw [hf]
      refine iff_of_false ?_ fun h => nomatch h.1
      unfold equalsAt
      split
      · exact not_fatal_ok _
      · split
        · exact not_fatal_ok _
        · exact fun h => nomatch fatal_error.mp h

/-- Whether the evaluation of an expression within an allowance comes to a list that is to be read
    at no finite index, or has to show an integer of too many digits.  The right side of a conjunction
    or a disjunction counts only where the left side leaves the answer open. -/
inductive Expr.Overruns (scope : Root → Value ρ) : Expr → Nat → Prop where
  | path {r : Root} {ss : List Segment} {d : Nat} :
      (scope r).Overindexes (ss.map Segment.toValue) → Overruns scope (.path r ss) (d + 1)
  | not {e : Expr} {d : Nat} : Overruns scope e d → Overruns scope (.not e) (d + 1)
  | negate {e : Expr} {d : Nat} : Overruns scope e d → Overruns scope (.negate e) (d + 1)
  | negateShown {e : Expr} {d : Nat} {v : Value ρ} :
      e.evalWithin scope d = .ok v → (∀ n, v ≠ .number n) →
      Value.itemsObstacle? [v] d = some .digits → Overruns scope (.negate e) (d + 1)
  | compareLeft {c : Comparator} {l r : Expr} {d : Nat} :
      Overruns scope l d → Overruns scope (.compare c l r) (d + 1)
  | compareRight {c : Comparator} {l r : Expr} {d : Nat} {v : Value ρ} :
      l.evalWithin scope d = .ok v → Overruns scope r d → Overruns scope (.compare c l r) (d + 1)
  | compareShown {c : Comparator} {l r : Expr} {d : Nat} {a b : Value ρ} :
      l.evalWithin scope d = .ok a → r.evalWithin scope d = .ok b → c.isOrder = true →
      Value.ordering? a b = none → Value.itemsObstacle? [a, b] d = some .digits →
      Overruns scope (.compare c l r) (d + 1)
  | andLeft {l r : Expr} {d : Nat} : Overruns scope l d → Overruns scope (.and l r) (d + 1)
  | andRight {l r : Expr} {d : Nat} {v : Value ρ} :
      l.evalWithin scope d = .ok v → v.isTrue = true → Overruns scope r d →
      Overruns scope (.and l r) (d + 1)
  | orLeft {l r : Expr} {d : Nat} : Overruns scope l d → Overruns scope (.or l r) (d + 1)
  | orRight {l r : Expr} {d : Nat} {v : Value ρ} :
      l.evalWithin scope d = .ok v → v.isTrue = false → Overruns scope r d →
      Overruns scope (.or l r) (d + 1)

/-- Without allowance nothing is come to. -/
theorem Expr.overruns_of_succ {scope : Root → Value ρ} {e : Expr}
    (h : ∀ d, Fatal (e.evalWithin scope (d + 1)) ↔ e.Overruns scope (d + 1)) :
    ∀ {d : Nat}, Fatal (e.evalWithin scope d) ↔ e.Overruns scope d := by
  intro d
  cases d with
  | zero =>
      refine iff_of_false (fun h => ?_) (fun h => nomatch h)
      cases e <;> exact nomatch fatal_error.mp h
  | succ d => exact h d

/-- **Evaluation fails beyond repair** just if it comes to a list read at no finite index, or to an
    integer of too many digits that it has to show. -/
theorem Expr.overruns_iff {scope : Root → Value ρ} {e : Expr} :
    ∀ {d : Nat}, Fatal (e.evalWithin scope d) ↔ e.Overruns scope d := by
  induction e with
  | literal l =>
      refine overruns_of_succ fun d => ?_
      exact iff_of_false (not_fatal_ok l.toValue) (fun h => nomatch h)
  | path r ss =>
      refine overruns_of_succ fun d => ?_
      have hkeys : ∀ key ∈ ss.map (Segment.toValue (ρ := ρ)), key.isContainer = false := by
        intro key hkey
        obtain ⟨s, -, rfl⟩ := List.mem_map.mp hkey
        exact s.toValue_simple
      refine (Value.follow_fatal hkeys).trans ⟨.path, fun h => ?_⟩
      cases h with
      | path h => exact h
  | not e ih =>
      refine overruns_of_succ fun d => fatal_bind.trans ⟨?_, fun h => ?_⟩
      · rintro (h | ⟨v, -, h⟩)
        · exact .not (ih.mp h)
        · exact absurd h (not_fatal_ok _)
      · cases h with
        | not h => exact Or.inl (ih.mpr h)
  | negate e ih =>
      refine overruns_of_succ fun d => fatal_bind.trans ⟨?_, fun h => ?_⟩
      · rintro (h | ⟨v, hv, h⟩)
        · exact .negate (ih.mp h)
        · -- what is no number cannot be negated, and is shown
          cases v with
          | number n => exact absurd h (not_fatal_ok _)
          | _ =>
              refine .negateShown hv (fun n h => by cases h) ?_
              exact (EvalError.told_isFatal rfl).mp (fatal_error.mp h)
      · cases h with
        | negate h => exact Or.inl (ih.mpr h)
        | @negateShown _ _ v hv hnumber h =>
            refine Or.inr ⟨v, hv, ?_⟩
            cases v with
            | number n => exact absurd rfl (hnumber n)
            | _ => exact fatal_error.mpr ((EvalError.told_isFatal rfl).mpr h)
  | compare c l r ihl ihr =>
      refine overruns_of_succ fun d => fatal_bind.trans ⟨?_, fun h => ?_⟩
      · rintro (h | ⟨a, ha, h⟩)
        · exact .compareLeft (ihl.mp h)
        · rcases fatal_bind.mp h with h | ⟨b, hb, h⟩
          · exact .compareRight ha (ihr.mp h)
          · rcases fatal_bind.mp h with h | ⟨_, _, h⟩
            · obtain ⟨horder, hnone, hshown⟩ := Value.compare_fatal.mp h
              exact .compareShown ha hb horder hnone hshown
            · exact absurd h (not_fatal_ok _)
      · cases h with
        | compareLeft h => exact Or.inl (ihl.mpr h)
        | compareRight ha h =>
            exact Or.inr ⟨_, ha, fatal_bind.mpr (Or.inl (ihr.mpr h))⟩
        | compareShown ha hb horder hnone hshown =>
            refine Or.inr ⟨_, ha, fatal_bind.mpr (Or.inr ⟨_, hb, fatal_bind.mpr (Or.inl ?_)⟩)⟩
            exact Value.compare_fatal.mpr ⟨horder, hnone, hshown⟩
  | and l r ihl ihr =>
      refine overruns_of_succ fun d => fatal_bind.trans ⟨?_, fun h => ?_⟩
      · rintro (h | ⟨a, ha, h⟩)
        · exact .andLeft (ihl.mp h)
        · by_cases htrue : a.isTrue = true
          · rw [if_pos htrue] at h
            rcases fatal_bind.mp h with h | ⟨b, -, h⟩
            · exact .andRight ha htrue (ihr.mp h)
            · exact absurd h (not_fatal_ok _)
          · rw [if_neg htrue] at h
            exact absurd h (not_fatal_ok _)
      · cases h with
        | andLeft h => exact Or.inl (ihl.mpr h)
        | andRight ha htrue h =>
            refine Or.inr ⟨_, ha, ?_⟩
            rw [if_pos htrue]
            exact fatal_bind.mpr (Or.inl (ihr.mpr h))
  | or l r ihl ihr =>
      refine overruns_of_succ fun d => fatal_bind.trans ⟨?_, fun h => ?_⟩
      · rintro (h | ⟨a, ha, h⟩)
        · exact .orLeft (ihl.mp h)
        · by_cases htrue : a.isTrue = true
          · rw [if_pos htrue] at h
            exact absurd h (not_fatal_ok _)
          · rw [if_neg htrue] at h
            rcases fatal_bind.mp h with h | ⟨b, -, h⟩
            · exact .orRight ha (Bool.eq_false_iff.mpr htrue) (ihr.mp h)
            · exact absurd h (not_fatal_ok _)
      · cases h with
        | orLeft h => exact Or.inl (ihl.mpr h)
        | orRight ha hfalse h =>
            refine Or.inr ⟨_, ha, ?_⟩
            rw [if_neg (by rw [hfalse]; exact Bool.false_ne_true)]
            exact fatal_bind.mpr (Or.inl (ihr.mpr h))

end LessonVariants
