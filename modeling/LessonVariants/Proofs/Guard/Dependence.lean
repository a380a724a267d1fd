import LessonVariants.Proofs.Guard.CacheHistory
import LessonVariants.Proofs.Guard.Evaluation

/-! # What guards depend on

    An expression depends on its paths only: on the values that they lead to, and on which of them
    lead to one place (`Expr.evalWithin_alike`).  The values need not be equal for that.  It is
    enough that they are related by a relation that guards do not see through (`Unseen`): related
    values have one truth, one order and one equality, and the same keeps them from being shown. -/

namespace LessonVariants

variable {ρ α β : Type}

/-- The paths of an expression. -/
def Expr.paths : Expr → List (Root × List Segment)
  | literal _     => []
  | path r ss     => [(r, ss)]
  | not e         => e.paths
  | negate e      => e.paths
  | compare _ l r => l.paths ++ r.paths
  | and l r       => l.paths ++ r.paths
  | or l r        => l.paths ++ r.paths

/-! ## Outcomes that come to the same -/

/-- Two outcomes of evaluation that come to the same: related results, one and the same error, or
    two errors that a guard may fail with. -/
inductive Alike (R : α → β → Prop) : Except (EvalError ρ) α → Except (EvalError ρ) β → Prop where
  | ok {a : α} {b : β} : R a b → Alike R (.ok a) (.ok b)
  | error (e : EvalError ρ) : Alike R (.error e) (.error e)
  | mild {e e' : EvalError ρ} :
      e.isFatal = false → e'.isFatal = false → Alike R (.error e) (.error e')

theorem Alike.bind {α' β' : Type} {R : α → β → Prop} {S : α' → β' → Prop}
    {x : Except (EvalError ρ) α} {y : Except (EvalError ρ) β} {f : α → Except (EvalError ρ) α'}
    {g : β → Except (EvalError ρ) β'} (hxy : Alike R x y)
    (hfg : ∀ a b, R a b → Alike S (f a) (g b)) :
    Alike S (x >>= f) (y >>= g) := by
  cases hxy with
  | ok hab => exact hfg _ _ hab
  | error e => exact .error e
  | mild he he' => exact .mild he he'

/-- Outcomes without errors that are equal come to the same. -/
theorem Alike.of_eq {x y : Except (EvalError ρ) α} (h : x = y) : Alike Eq x y := by
  subst h
  cases x with
  | ok a => exact .ok rfl
  | error e => exact .error e

variable [Scalar ρ]

/-! ## Relations that guards do not see through -/

/-- A relation of values that guards do not see through: related values have one truth, one order
    and one equality, which goes equally deep, are shown or not shown together, and are numbers
    together. -/
structure Unseen (R : Value ρ → Value ρ → Prop) : Prop where
  refl : ∀ v, R v v
  isTrue : ∀ {v w}, R v w → v.isTrue = w.isTrue
  isContainer : ∀ {v w}, R v w → v.isContainer = w.isContainer
  equals : ∀ {v w v' w'}, R v w → R v' w' → v.equals v' = w.equals w'
  sameLevels : ∀ {v w v' w'}, R v w → R v' w' → v.sameLevels v' = w.sameLevels w'
  obstacle? : ∀ {v w}, R v w → ∀ d, v.obstacle? d = w.obstacle? d
  ordering? : ∀ {v w v' w'}, R v w → R v' w' → v.ordering? v' = w.ordering? w'
  negate : ∀ {v w}, R v w →
    (∃ m n, v = .number m ∧ w = .number n ∧ R (.number (-m)) (.number (-n))) ∨
    ((∀ m, v ≠ .number m) ∧ ∀ n, w ≠ .number n)

/-- Guards do not see through equality. -/
theorem Unseen.eq : Unseen (Eq (α := Value ρ)) where
  refl _ := rfl
  isTrue h := by rw [h]
  isContainer h := by rw [h]
  equals h h' := by rw [h, h']
  sameLevels h h' := by rw [h, h']
  obstacle? h d := by rw [h]
  ordering? h h' := by rw [h, h']
  negate := by
    rintro v w rfl
    cases v with
    | number n => exact Or.inl ⟨n, n, rfl, rfl, rfl⟩
    | _ => exact Or.inr ⟨(fun m h => nomatch h), fun m h => nomatch h⟩

/-- Errors whose values meet the same obstacles are told alike. -/
theorem Alike.told {R : α → β → Prop} {e e' : EvalError ρ} (he : e.isFatal = false)
    (he' : e'.isFatal = false) {d : Nat}
    (h : Value.itemsObstacle? e.shownValues d = Value.itemsObstacle? e'.shownValues d) :
    Alike R (.error (e.told d)) (.error (e'.told d)) := by
  unfold EvalError.told
  rw [h]
  cases Value.itemsObstacle? e'.shownValues d with
  | some o => exact .error _
  | none => exact .mild he he'

/-- Equality of related values comes to the same. -/
theorem Unseen.equalsAt {R : Value ρ → Value ρ → Prop} (hR : Unseen R) (d : Nat) (onePlace : Bool)
    {a b a' b' : Value ρ} (ha : R a a') (hb : R b b') :
    Value.equalsAt d onePlace a b = Value.equalsAt d onePlace a' b' := by
  unfold Value.equalsAt
  rw [hR.isContainer ha, hR.sameLevels ha hb, hR.equals ha hb]

/-- Comparing related values comes to the same. -/
theorem Unseen.compare {R : Value ρ → Value ρ → Prop} (hR : Unseen R) (d : Nat) (onePlace : Bool)
    (c : Comparator) {a b a' b' : Value ρ} (ha : R a a') (hb : R b b') :
    Alike Eq (Value.compare d onePlace c a b) (Value.compare d onePlace c a' b') := by
  cases hc : c.isOrder with
  | false =>
      obtain ⟨f, hf⟩ := Value.compare_of_not_order (ρ := ρ) hc
      rw [hf, hf, hR.equalsAt d onePlace ha hb]
      exact .of_eq rfl
  | true =>
      have hordering : a.ordering? b = a'.ordering? b' := hR.ordering? ha hb
      cases ho : a'.ordering? b' with
      | some o =>
          rw [Value.compare_of_ordering hc (hordering.trans ho), Value.compare_of_ordering hc ho]
          exact .ok rfl
      | none =>
          rw [Value.compare_of_no_ordering hc (hordering.trans ho),
            Value.compare_of_no_ordering hc ho]
          refine .told rfl rfl ?_
          simp only [EvalError.shownValues, Value.itemsObstacle?, hR.obstacle? ha, hR.obstacle? hb]

/-! ## Expressions -/

/-- Two scopes that come to the same for a path: it leads to related values, and to one place. -/
structure PathAlike (R : Value ρ → Value ρ → Prop) (scope scope' : Root → Value ρ)
    (p : Root × List Segment) : Prop where
  value : Alike R ((scope p.1).follow ⟨p.1.text, []⟩ (p.2.map Segment.toValue))
    ((scope' p.1).follow ⟨p.1.text, []⟩ (p.2.map Segment.toValue))
  place : (scope p.1).place? (p.2.map Segment.toValue)
    = (scope' p.1).place? (p.2.map Segment.toValue)

variable {R : Value ρ → Value ρ → Prop} {scope scope' : Root → Value ρ}

/-- Whether two expressions are paths to one place depends on their paths only. -/
theorem Expr.onePlace_congr {l r : Expr}
    (h : ∀ p ∈ l.paths ++ r.paths, PathAlike R scope scope' p) :
    onePlace scope l r = onePlace scope' l r := by
  cases l with
  | path root ss =>
      cases r with
      | path root' ss' =>
          have hl := (h (root, ss) List.mem_cons_self).place
          have hr := (h (root', ss') (List.mem_cons_of_mem _ List.mem_cons_self)).place
          dsimp only at hl hr
          simp only [onePlace, hl, hr]
      | _ => rfl
  | _ => rfl

/-- **An expression depends on its paths only.**  Where they come to the same in two scopes, so does
    the expression. -/
theorem Expr.evalWithin_alike (hR : Unseen R) {e : Expr} :
    (∀ p ∈ e.paths, PathAlike R scope scope' p) →
      ∀ d, Alike R (e.evalWithin scope d) (e.evalWithin scope' d) := by
  induction e with
  | literal l =>
      intro _ d
      cases d with
      | zero => exact .error _
      | succ d => exact .ok (hR.refl _)
  | path root ss =>
      intro h d
      cases d with
      | zero => exact .error _
      | succ d => exact (h (root, ss) List.mem_cons_self).value
  | not e ih =>
      intro h d
      cases d with
      | zero => exact .error _
      | succ d =>
          refine (ih h d).bind fun v w hvw => .ok ?_
          rw [hR.isTrue hvw]
          exact hR.refl _
  | negate e ih =>
      intro h d
      cases d with
      | zero => exact .error _
      | succ d =>
          refine (ih h d).bind fun v w hvw => ?_
          rcases hR.negate hvw with ⟨m, n, rfl, rfl, hmn⟩ | ⟨hv, hw⟩
          · exact .ok hmn
          · -- neither value is a number, and both errors are told alike
            split
            · next m => exact absurd rfl (hv m)
            · refine .told rfl rfl ?_
              simp only [EvalError.shownValues, Value.itemsObstacle?, hR.obstacle? hvw]
  | compare c l r ihl ihr =>
      intro h d
      cases d with
      | zero => exact .error _
      | succ d =>
          obtain ⟨hl, hr⟩ := List.forall_mem_append.mp h
          refine (ihl hl d).bind fun a a' ha => (ihr hr d).bind fun b b' hb => ?_
          rw [onePlace_congr h]
          refine (hR.compare d _ c ha hb).bind fun x y hxy => .ok ?_
          rw [hxy]
          exact hR.refl _
  | and l r ihl ihr =>
      intro h d
      cases d with
      | zero => exact .error _
      | succ d =>
          obtain ⟨hl, hr⟩ := List.forall_mem_append.mp h
          refine (ihl hl d).bind fun a a' ha => ?_
          -- the left sides have one truth, so both right sides are evaluated or neither is
          rw [hR.isTrue ha]
          split
          · refine (ihr hr d).bind fun b b' hb => .ok ?_
            rw [hR.isTrue hb]
            exact hR.refl _
          · exact .ok (hR.refl _)
  | or l r ihl ihr =>
      intro h d
      cases d with
      | zero => exact .error _
      | succ d =>
          obtain ⟨hl, hr⟩ := List.forall_mem_append.mp h
          refine (ihl hl d).bind fun a a' ha => ?_
          rw [hR.isTrue ha]
          split
          · exact .ok (hR.refl _)
          · refine (ihr hr d).bind fun b b' hb => .ok ?_
            rw [hR.isTrue hb]
            exact hR.refl _

/-! ## Guards -/

/-- An expression has one truth where its paths come to the same. -/
theorem Expr.holds_congr (hR : Unseen R) {e : Expr}
    (h : ∀ p ∈ e.paths, PathAlike R scope scope' p) (d : Nat) :
    e.holds scope d = e.holds scope' d := by
  have heval := evalWithin_alike hR h d
  unfold holds
  revert heval
  generalize e.evalWithin scope d = x
  generalize e.evalWithin scope' d = y
  rintro (hvw | err | ⟨he, he'⟩)
  · exact congrArg Except.ok (hR.isTrue hvw)
  · rfl
  · dsimp only
    rw [he, he', if_neg Bool.false_ne_true, if_neg Bool.false_ne_true]

/-- Guard text has one verdict where the paths of the expression that is read in it come to the
    same. -/
theorem GuardCache.textVerdict_congr (hR : Unseen R) {cache : GuardCache} {room : Room}
    {source : String}
    (h : ∀ e, cache.reading room.parsing source = .ok (some e) →
      ∀ p ∈ e.paths, PathAlike R scope scope' p) :
    cache.textVerdict room source scope = cache.textVerdict room source scope' := by
  unfold textVerdict
  split
  · rfl
  · cases hread : cache.reading room.parsing source with
    | error m => rfl
    | ok expr? =>
        cases expr? with
        | none => rfl
        | some e => exact Expr.holds_congr hR (h e hread) room.evaluation

end LessonVariants
