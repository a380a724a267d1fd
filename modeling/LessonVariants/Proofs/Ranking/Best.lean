import LessonVariants.Proofs.Number.Extended
import LessonVariants.Proofs.Ranking.Order

/-! # The winner of a ranking

    A scan from the front finds the first candidate with the highest score: those before it have
    strictly lower scores, and those behind it no higher ones (`firstBest_leads`).  Where every score is
    defined, sorting puts that candidate first (`winner?_eq`), since it is stable.  The scan sees
    nothing of a candidate but its score (`firstBest_map`), so whoever keeps the scores in their order
    finds the same winner again. -/

namespace LessonVariants

variable {α β ρ : Type} [Scalar ρ]

/-- The first candidate with the highest score: those before it have lower scores, and those behind
    it no higher ones. -/
def Leads (scored : List (α × ρ)) (best : α × ρ) : Prop :=
  ∃ before after, scored = before ++ best :: after ∧
    (∀ e ∈ before, Scalar.lt e.2 best.2 = true) ∧ ∀ e ∈ after, Scalar.le e.2 best.2 = true

namespace Leads

variable {scored : List (α × ρ)} {best : α × ρ}

/-- No defined score is higher. -/
theorem le (h : Leads scored best) {e : α × ρ} (he : e ∈ scored)
    (hdefined : Scalar.reading e.2 ≠ .undefined) : Scalar.le e.2 best.2 = true := by
  obtain ⟨before, after, rfl, hbefore, hafter⟩ := h
  rcases List.mem_append.mp he with he | he
  · exact Scalar.le_of_lt (hbefore e he)
  · rcases List.mem_cons.mp he with rfl | he
    · exact Scalar.le_iff.mpr (Or.inr ⟨rfl, hdefined⟩)
    · exact hafter e he

/-- Looking for the highest score finds the candidate. -/
theorem find? (h : Leads scored best) (hdefined : Scalar.reading best.2 ≠ .undefined) :
    scored.find? (fun e => Scalar.eq e.2 best.2) = some best := by
  obtain ⟨before, after, rfl, hbefore, -⟩ := h
  refine List.find?_eq_some_iff_append.mpr
    ⟨Scalar.eq_self hdefined, before, after, rfl, fun e he => ?_⟩
  rw [Scalar.eq_of_lt (hbefore e he)]
  rfl

/-- A lower score in front changes nothing. -/
theorem cons {x : α × ρ} (h : Leads scored best) (hx : Scalar.lt x.2 best.2 = true) :
    Leads (x :: scored) best := by
  obtain ⟨before, after, rfl, hbefore, hafter⟩ := h
  refine ⟨x :: before, after, rfl, fun e he => ?_, hafter⟩
  rcases List.mem_cons.mp he with rfl | he
  · exact hx
  · exact hbefore e he

/-- A score that is no higher than the first one changes nothing behind it. -/
theorem skip {x y : α × ρ} {ys : List (α × ρ)} (h : Leads (x :: ys) best)
    (hy : Scalar.le y.2 x.2 = true) : Leads (x :: y :: ys) best := by
  obtain ⟨before, after, hsplit, hbefore, hafter⟩ := h
  cases before with
  | nil =>
      cases hsplit
      refine ⟨[], y :: ys, rfl, List.forall_mem_nil _, fun e he => ?_⟩
      rcases List.mem_cons.mp he with rfl | he
      · exact hy
      · exact hafter e he
  | cons z before =>
      cases hsplit
      have hx := hbefore x List.mem_cons_self
      refine ⟨x :: y :: before, after, rfl, fun e he => ?_, hafter⟩
      rcases List.mem_cons.mp he with rfl | he
      · exact hx
      · rcases List.mem_cons.mp he with rfl | he
        · exact Scalar.lt_of_le_of_lt hy hx
        · exact hbefore e (List.mem_cons_of_mem x he)

end Leads

/-- The first candidate that no later one exceeds strictly. -/
def firstBest (above : α → α → Bool) : List α → Option α
  | []      => none
  | x :: xs => some (xs.foldl (fun best y => if above y best then y else best) x)

theorem firstBest_mem {above : α → α → Bool} {xs : List α} {x : α}
    (h : firstBest above xs = some x) : x ∈ xs := by
  cases xs with
  | nil => exact nomatch h
  | cons y ys =>
      obtain rfl := Option.some.inj h
      clear h
      induction ys generalizing y with
      | nil => exact List.mem_singleton.mpr rfl
      | cons z zs ih =>
          have hmem := ih (if above z y then z else y)
          rcases List.mem_cons.mp hmem with hbest | hlater
          · show List.foldl _ (if above z y then z else y) zs ∈ y :: z :: zs
            rw [hbest]
            split
            · exact List.mem_cons_of_mem y List.mem_cons_self
            · exact List.mem_cons_self
          · exact List.mem_cons_of_mem y (List.mem_cons_of_mem z hlater)

/-- A candidate with a strictly higher score than another one. -/
def outscores (a b : α × ρ) : Bool :=
  scoresBelow b a

/-- **The scan keeps the first of the highest scores**, if they are defined. -/
theorem firstBest_leads {scored : List (α × ρ)} {best : α × ρ}
    (hdefined : ∀ e ∈ scored, Scalar.reading e.2 ≠ .undefined)
    (h : firstBest outscores scored = some best) : Leads scored best := by
  cases scored with
  | nil => exact nomatch h
  | cons x xs =>
      obtain rfl := Option.some.inj h
      clear h
      induction xs generalizing x with
      | nil => exact ⟨[], [], rfl, List.forall_mem_nil _, List.forall_mem_nil _⟩
      | cons y ys ih =>
          have hx := hdefined x List.mem_cons_self
          have hy := hdefined y (List.mem_cons_of_mem x List.mem_cons_self)
          have hys : ∀ e ∈ ys, Scalar.reading e.2 ≠ .undefined := fun e he =>
            hdefined e (List.mem_cons_of_mem x (List.mem_cons_of_mem y he))
          rw [List.foldl_cons]
          cases hxy : outscores y x with
          | true =>
              -- the best so far falls behind `y`, and so behind whatever leads from `y` on
              have hlead := ih y (List.forall_mem_cons.mpr ⟨hy, hys⟩)
              exact hlead.cons (Scalar.lt_of_lt_of_le hxy (hlead.le List.mem_cons_self hy))
          | false =>
              have hlead := ih x (List.forall_mem_cons.mpr ⟨hx, hys⟩)
              exact hlead.skip (Scalar.le_of_not_lt hx hy hxy)

/-- No score is higher than an undefined one, so the scan keeps it if it comes first. -/
theorem firstBest_undefined {x : α × ρ} (h : Scalar.reading x.2 = .undefined) (xs : List (α × ρ)) :
    firstBest outscores (x :: xs) = some x := by
  refine congrArg some ?_
  induction xs with
  | nil => rfl
  | cons y ys ih =>
      rw [List.foldl_cons, outscores, scoresBelow, Scalar.lt_of_undefined h, if_neg Bool.false_ne_true]
      exact ih

/-- An undefined score is no higher than any, so from a defined one on the scan keeps defined ones. -/
theorem firstBest_defined {x best : α × ρ} {xs : List (α × ρ)}
    (hx : Scalar.reading x.2 ≠ .undefined) (h : firstBest outscores (x :: xs) = some best) :
    Scalar.reading best.2 ≠ .undefined := by
  obtain rfl := Option.some.inj h
  clear h
  induction xs generalizing x with
  | nil => exact hx
  | cons y ys ih =>
      rw [List.foldl_cons]
      cases hxy : outscores y x with
      | true => exact ih (Scalar.defined_of_lt hxy)
      | false => exact ih hx

/-- The scan sees nothing of a candidate but its score. -/
theorem firstBest_map (f : α → β) (scored : List (α × ρ)) :
    firstBest outscores (scored.map fun e => (f e.1, e.2))
      = (firstBest outscores scored).map fun e => (f e.1, e.2) := by
  cases scored with
  | nil => rfl
  | cons x xs =>
      refine congrArg some ?_
      rw [List.foldl_map]
      refine List.foldl_hom (fun e : α × ρ => (f e.1, e.2)) fun best y => ?_
      exact (apply_ite (fun e : α × ρ => (f e.1, e.2)) (outscores y best = true) y best).symm

/-- The highest score can be found among the scores alone. -/
theorem foldl_maxFirst (x : α × ρ) (xs : List (α × ρ)) :
    xs.foldl (fun top e => Scalar.maxFirst top e.2) x.2
      = (xs.foldl (fun best y => if outscores y best then y else best) x).2 :=
  List.foldl_hom Prod.snd fun best y =>
    (apply_ite Prod.snd (outscores y best = true) y best).symm

/-! ## The winner -/

/-- What a score denotes; an undefined one may denote anything. -/
def scoreKey (e : α × ρ) : WithBot (WithTop ℚ) :=
  (Scalar.reading e.2).extended?.getD ⊥

/-- Defined scores are ordered as what they denote. -/
theorem ranksBy_scoreKey {scored : List (α × ρ)}
    (hdefined : ∀ e ∈ scored, Scalar.reading e.2 ≠ .undefined) :
    RanksBy scoresBelow scoreKey scored := by
  intro a ha b hb
  obtain ⟨v, hv⟩ := Reading.extended?_eq_some (hdefined a ha)
  obtain ⟨w, hw⟩ := Reading.extended?_eq_some (hdefined b hb)
  obtain ⟨o, ho, hcompares⟩ := Reading.compare?_compares hv hw
  rw [scoreKey, scoreKey, hv, hw, scoresBelow, Scalar.lt, Scalar.compare?, ho, beq_iff_eq]
  show some o = some .lt ↔ v < w
  rw [Option.some.injEq, hcompares.eq_lt]

/-- What a stable sort puts last has the highest key, and is the last item with that key. -/
theorem SortsTo.getLast {κ : Type} [LinearOrder κ] {key : α → κ} {xs ys : List α} {last : α}
    (h : SortsTo key xs ys) (hlast : ys.getLast? = some last) :
    (∀ x ∈ xs, key x ≤ key last) ∧ (xs.filter fun x => key x = key last).getLast? = some last := by
  refine ⟨fun x hx => h.ascending.le_getLast hlast x (h.mem_iff.mpr hx), ?_⟩
  obtain ⟨front, rfl⟩ := List.getLast?_eq_some_iff.mp hlast
  have hone : [last].filter (fun x => key x = key last) = [last] :=
    List.filter_cons_of_pos (decide_eq_true rfl)
  rw [← h.same (key last), List.filter_append, hone, List.getLast?_concat]

/-- **The ranking's winner is what the scan keeps**, where all scores are defined: sorted backwards and
    stably, the first of the highest scores comes last. -/
theorem winner?_eq {scored : List (α × ρ)}
    (hdefined : ∀ e ∈ scored, Scalar.reading e.2 ≠ .undefined) :
    winner? scored = firstBest outscores scored := by
  have hranks : RanksBy scoresBelow scoreKey scored.reverse :=
    (ranksBy_scoreKey hdefined).subset fun e he => List.mem_reverse.mp he
  have hsorts := sortByRuns_sorts hranks
  cases hscored : scored with
  | nil => rfl
  | cons x xs =>
      rw [← hscored]
      obtain ⟨best, hbest⟩ : ∃ best, firstBest outscores scored = some best := by
        rw [hscored]
        exact ⟨_, rfl⟩
      have hlead := firstBest_leads hdefined hbest
      have hmem := firstBest_mem hbest
      obtain ⟨last, hlast⟩ : ∃ last, (sortByRuns scoresBelow scored.reverse).getLast? = some last := by
        have hmember := hsorts.mem_iff.mpr (List.mem_reverse.mpr hmem)
        exact ⟨_, List.getLast?_eq_some_getLast (List.ne_nil_of_mem hmember)⟩
      obtain ⟨hhighest, hclass⟩ := hsorts.getLast hlast
      have hlastmem : last ∈ scored :=
        List.mem_reverse.mp (hsorts.mem_iff.mp (List.mem_of_getLast? hlast))
      -- what leads and what comes last have the highest score, and both are the first to have it
      have hkey : scoreKey best = scoreKey last := by
        refine le_antisymm (hhighest best (List.mem_reverse.mpr hmem)) (not_lt.mp fun hlt => ?_)
        have hbelow := (ranksBy_scoreKey hdefined best hmem last hlastmem).mpr hlt
        have hle := hlead.le hlastmem (hdefined last hlastmem)
        exact Bool.false_ne_true ((Scalar.not_lt_of_le hle).symm.trans hbelow)
      have hfirst : scored.find? (fun e => scoreKey e = scoreKey best) = some last := by
        rw [hkey, ← List.head?_filter, ← List.getLast?_reverse, ← List.filter_reverse]
        exact hclass
      have hfound : scored.find? (fun e => scoreKey e = scoreKey best) = some best := by
        obtain ⟨before, after, hsplit, hbefore, -⟩ := hlead
        refine List.find?_eq_some_iff_append.mpr ⟨decide_eq_true rfl, before, after, hsplit, ?_⟩
        intro e he
        have hlower := (ranksBy_scoreKey hdefined e (hsplit ▸ List.mem_append_left _ he) best hmem).mp
          (hbefore e he)
        exact Bool.not_eq_true' _ |>.mpr (decide_eq_false hlower.ne)
      rw [hbest, winner?, ranked, List.head?_reverse, hlast]
      exact hfirst.symm.trans hfound

end LessonVariants
