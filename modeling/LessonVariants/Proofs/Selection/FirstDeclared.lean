import LessonVariants.Proofs.Selection.Account

/-! # The variant that a ranking chooses

    A ranking looks at the variants in the order of their declaration: it drops those whose labels
    do not suit the session, then those whose guards fail, and takes the first of the highest scores
    among the rest.  Dropping keeps the order, so the choice can be told from the declared list
    itself (`Slot.FirstHighest`).  Where nothing is left, a variant stands in that depends on
    neither labels nor guards nor scores (`Slot.StandsIn`). -/

namespace LessonVariants

variable {ρ : Type}

/-- The variant that stands in where none survives: the first declared one with the fallback's id,
    or else the first declared one. -/
inductive Slot.StandsIn (slot : Slot ρ) (v : Variant ρ) : Prop where
  | fallback {id : String} {before after : List (Variant ρ)} :
      slot.fallbackId = some id → slot.variants = before ++ v :: after → v.id = id →
        (∀ w ∈ before, w.id ≠ id) → StandsIn slot v
  | first :
      (∀ id, slot.fallbackId = some id → ¬slot.Declares id) → slot.variants.head? = some v →
        StandsIn slot v

/-- A survivor that no survivor outscores, and whose score none declared before it reaches. -/
structure Slot.FirstHighest (slot : Slot Rat) (cache : GuardCache) (room : Room)
    (session : Session Rat) (v : Variant Rat) : Prop where
  suits   : v.suits session = true
  passes  : slot.passes cache room session v = true
  highest : ∀ w ∈ slot.surviving cache room session, w.score session ≤ v.score session
  first   : ∃ before after, slot.variants = before ++ v :: after ∧
    ∀ w ∈ before, w.suits session = true → slot.passes cache room session w = true →
      w.score session < v.score session

/-! ## Standing in -/

/-- The first variant with an id, as a place in the declared list. -/
theorem Slot.variant?_eq_some {slot : Slot ρ} {id : String} {v : Variant ρ} :
    slot.variant? id = some v ↔ v.id = id ∧ ∃ before after,
      slot.variants = before ++ v :: after ∧ ∀ w ∈ before, w.id ≠ id := by
  rw [variant?, List.find?_eq_some_iff_append, beq_iff_eq]
  simp only [Bool.not_eq_true', beq_eq_false_iff_ne]

theorem Slot.variant?_eq_none {slot : Slot ρ} {id : String} :
    slot.variant? id = none ↔ ¬slot.Declares id := by
  refine ⟨?_, variant?_undeclared⟩
  rintro hnone ⟨v, hv, hid⟩
  exact List.find?_eq_none.mp hnone v hv (beq_iff_eq.mpr hid)

/-- What a ranking falls back to stands in. -/
theorem Slot.standsIn_fallback {slot : Slot ρ} {first : Variant ρ}
    (hfirst : slot.variants.head? = some first) :
    slot.StandsIn ((slot.fallbackId.bind slot.variant?).getD first) := by
  cases hfound : slot.fallbackId.bind slot.variant? with
  | none =>
      refine .first (fun id hid => ?_) hfirst
      exact variant?_eq_none.mp (Option.bind_eq_none_iff.mp hfound id hid)
  | some v =>
      obtain ⟨id, hid, hv⟩ := Option.bind_eq_some_iff.mp hfound
      obtain ⟨hown, before, after, hsplit, hbefore⟩ := variant?_eq_some.mp hv
      exact .fallback hid hsplit hown hbefore

/-! ## Scores -/

/-- What the weights of a variant add up to for a session: the need for help, the match of the theme and
    the form of the content.  The device has no part in it. -/
def Variant.weighted (v : Variant Rat) (session : Session Rat) : Rat :=
  let weights := v.weights.getD {}
  let form := v.labels.modality.getD .reading
  weights.lowAccuracy.getD 0 * (1 - session.metrics.accuracy)
    + weights.themeMatch.getD 0 * (if v.matchesTheme session then 1 else 0)
    + ((weights.modality.getD []).get? (Vocabulary.label form)).getD 0

/-- In exact arithmetic a weight counts as it is, and a missing one is zero. -/
theorem weight_rat (w : Option Rat) : weight w = w.getD 0 := by
  have hzero : (Scalar.ofDecimal ⟨0, 0⟩ : Rat) = 0 := by decide +kernel
  cases w with
  | none => exact hzero
  | some x =>
      show (if Scalar.isZero x then Scalar.ofDecimal ⟨0, 0⟩ else x) = x
      by_cases hx : x = 0
      · rw [hx, hzero, ite_self]
      · refine if_neg fun h => hx ?_
        exact Reading.finite.inj (beq_iff_eq.mp h)

/-- **A score is the weighted sum and a term for the device**, a bonus if the variant is made for it and a
    penalty if not. -/
theorem Variant.score_eq (v : Variant Rat) (session : Session Rat) :
    v.score session
      = v.weighted session + if v.fits session.env.device then 1 / 20 else -1 := by
  have hbonus : (Scalar.ofDecimal ⟨5, -2⟩ : Rat) = 1 / 20 := by decide +kernel
  have hpenalty : -(Scalar.ofDecimal ⟨1, 0⟩ : Rat) = -1 := by decide +kernel
  have hmatch : (Scalar.ofInt (if v.matchesTheme session then 1 else 0) : Rat)
      = if v.matchesTheme session then 1 else 0 := by
    cases v.matchesTheme session <;> rfl
  unfold score weighted deviceScore modalityWeight
  dsimp only
  rw [weight_rat, weight_rat, weight_rat, hmatch, hbonus, hpenalty]
  rfl

/-! ## Survivors -/

/-- Where a filter keeps an entry, what it keeps before that is what it keeps of the part before. -/
theorem filter_eq_append_cons {α : Type} {p : α → Bool} {l as bs : List α} {x : α}
    (h : l.filter p = as ++ x :: bs) :
    ∃ before after, l = before ++ x :: after ∧ before.filter p = as := by
  obtain ⟨front, back, rfl, rfl, hback⟩ := List.filter_eq_append_iff.mp h
  obtain ⟨skipped, after, rfl, hskipped, -, -⟩ := List.filter_eq_cons_iff.mp hback
  refine ⟨front ++ skipped, after, (List.append_assoc _ _ _).symm, ?_⟩
  rw [List.filter_append, List.filter_eq_nil_iff.mpr hskipped, List.append_nil]

/-- A variant that suits a session is made for its device. -/
theorem Variant.fits_of_suits {v : Variant ρ} {session : Session ρ} (h : v.suits session = true) :
    v.fits session.env.device = true := by
  unfold suits at h
  simp only [Bool.and_eq_true] at h
  exact h.1.2

section

variable [Scalar ρ] {cache : GuardCache} {room : Room}

theorem Slot.mem_surviving {slot : Slot ρ} {session : Session ρ} {v : Variant ρ} :
    v ∈ slot.surviving cache room session ↔
      v ∈ slot.variants ∧ v.suits session = true ∧ slot.passes cache room session v = true := by
  rw [surviving, eligible, List.mem_filter, List.mem_filter, and_assoc]

/-- Survivors are kept in the order of their declaration. -/
theorem Slot.surviving_split {slot : Slot ρ} {session : Session ρ} {v : Variant ρ}
    {earlier later : List (Variant ρ)}
    (h : slot.surviving cache room session = earlier ++ v :: later) :
    ∃ before after, slot.variants = before ++ v :: after ∧
      ∀ w ∈ before, w.suits session = true → slot.passes cache room session w = true →
        w ∈ earlier := by
  obtain ⟨front, back, heligible, rfl⟩ := filter_eq_append_cons h
  obtain ⟨before, after, hsplit, rfl⟩ := filter_eq_append_cons heligible
  refine ⟨before, after, hsplit, fun w hw hsuits hpasses => ?_⟩
  exact List.mem_filter.mpr ⟨List.mem_filter.mpr ⟨hw, hsuits⟩, hpasses⟩

end

/-- Who leads the survivors' scores is a survivor that none outscores, and whose score none declared
    before it reaches. -/
theorem Slot.declared_of_leads [WireScalar ρ] {slot : Slot ρ} {cache : GuardCache} {room : Room}
    {session : Session ρ} {v : Variant ρ}
    (h : Leads (slot.scored cache room session) (v, v.score session))
    (hdefined : ∀ w ∈ slot.surviving cache room session,
      Scalar.reading (w.score session) ≠ .undefined) :
    v ∈ slot.surviving cache room session ∧
      (∀ w ∈ slot.surviving cache room session,
        Scalar.le (w.score session) (v.score session) = true) ∧
      ∃ before after, slot.variants = before ++ v :: after ∧
        ∀ w ∈ before, w.suits session = true → slot.passes cache room session w = true →
          Scalar.lt (w.score session) (v.score session) = true := by
  have hle : ∀ w ∈ slot.surviving cache room session,
      Scalar.le (w.score session) (v.score session) = true := fun w hw =>
    h.le (List.mem_map.mpr ⟨w, hw, rfl⟩) (hdefined w hw)
  obtain ⟨before, after, hsplit, hbefore, -⟩ := h
  obtain ⟨earlier, rest, hsurviving, rfl, hrest⟩ := List.map_eq_append_iff.mp hsplit
  obtain ⟨w, later, rfl, hw, -⟩ := List.map_eq_cons_iff.mp hrest
  obtain rfl : w = v := congrArg Prod.fst hw
  have hmem : w ∈ slot.surviving cache room session := by
    rw [hsurviving]
    exact List.mem_append_right earlier List.mem_cons_self
  obtain ⟨declared, others, hdeclared, hearlier⟩ := surviving_split hsurviving
  refine ⟨hmem, hle, declared, others, hdeclared, fun u hu hsuits hpasses => ?_⟩
  exact hbefore _ (List.mem_map.mpr ⟨u, hearlier u hu hsuits hpasses, rfl⟩)

/-! ## Rankings -/

section

variable [WireScalar ρ]

/-- The variant that a ranking chooses by the survivors' scores, with the first declared variant at
    hand. -/
def Slot.choice (slot : Slot ρ) (cache : GuardCache) (room : Room) (first : Variant ρ)
    (session : Session ρ) : Variant ρ :=
  let fallback := (slot.fallbackId.bind slot.variant?).getD first
  ((winner? (slot.scored cache room session)).map (·.1)).getD fallback

/-- What a ranking asks to be remembered of a variant: its own wishes, or else the defaults. -/
def Variant.firstPick (v : Variant ρ) (settings : Settings ρ) (slotId : String) : StickyIntent where
  slotId    := slotId
  variantId := v.id
  reason    := .firstPick
  strength  := (v.sticky.bind (·.strength)).getD settings.stickyStrength
  scope     := (v.sticky.bind (·.scope)).getD settings.stickyScope

variable {cache : GuardCache} {room : Room}

theorem verdicts_own {slot : Slot ρ} {session : Session ρ} {vs : List (Variant ρ)}
    (h : ∀ v ∈ vs, ∃ b, cache.answer room v.guard ⟨session, slot.id, v⟩ = .ok b) :
    verdicts cache room session slot.id vs
      = .ok (vs.map fun v => (v, slot.passes cache room session v)) := by
  cases hverdicts : verdicts cache room session slot.id vs with
  | ok judged => rw [(verdicts_eq_ok hverdicts).2]
  | error f =>
      obtain ⟨before, v, after, rfl, -, hv⟩ := mapM_eq_error.mp hverdicts
      obtain ⟨b, hb⟩ := h v (List.mem_append_right before List.mem_cons_self)
      exact nomatch hb.symm.trans (map_eq_error.mp hv)

/-- **A ranking decides for its choice** if no guard fails, and asks to remember it. -/
theorem decide_choice {settings : Settings ρ} {slot : Slot ρ} {session : Session ρ}
    {policy : Policy ρ} {trace : Bool} {now : ρ} {first : Variant ρ}
    (hranked : route settings slot session policy now = .ranked first)
    (hjudged : ∀ v ∈ slot.eligible session,
      ∃ b, cache.answer room v.guard ⟨session, slot.id, v⟩ = .ok b) :
    ∃ d cache', decide settings (GuardCache.judge room) slot session policy trace now cache
        = (.ok d, cache') ∧
      d.result.slotId = slot.id ∧ d.result.variantId = (slot.choice cache room first session).id ∧
      d.intent = some ((slot.choice cache room first session).firstPick settings slot.id) := by
  have hverdicts := cache.judgeAll_eq room session slot.id (slot.eligible session)
  rw [verdicts_own hjudged, Slot.eligible] at hverdicts
  rw [decide_eq, hranked]
  dsimp only
  unfold rankedDecision
  cases hjudge : judgeAll (GuardCache.judge room) session slot.id
      (slot.variants.filter (·.suits session)) cache with
  | mk outcome cache' =>
      rw [hjudge] at hverdicts
      dsimp only at hverdicts
      subst hverdicts
      refine ⟨_, cache', rfl, rfl, ?_, ?_⟩
      · show (Option.getD ((winner? (List.map _ (survivors _))).map _) _ : Variant ρ).id = _
        rw [survivors_own]
        rfl
      · unfold Decision.ofVerdicts
        rw [survivors_own]
        let chosen := slot.choice cache room first session
        show some (StickyIntent.mk slot.id chosen.id .firstPick
          ((chosen.sticky.getD {}).strength.getD settings.stickyStrength)
          ((chosen.sticky.getD {}).scope.getD settings.stickyScope)) = some (chosen.firstPick _ _)
        unfold Variant.firstPick
        cases chosen.sticky <;> rfl

end

/-- **Among survivors a ranking chooses the first declared of the highest scores.** -/
theorem Slot.firstHighest_choice {slot : Slot Rat} {cache : GuardCache} {room : Room}
    {session : Session Rat} (h : slot.surviving cache room session ≠ []) (first : Variant Rat) :
    slot.FirstHighest cache room session (slot.choice cache room first session) := by
  have hdefined : ∀ e ∈ slot.scored cache room session, Scalar.reading e.2 ≠ .undefined :=
    fun e _ => Scalar.reading_rat e.2
  obtain ⟨best, hbest⟩ :
      ∃ best, firstBest outscores (slot.scored cache room session) = some best := by
    cases hscored : slot.scored cache room session with
    | nil => exact absurd (List.map_eq_nil_iff.mp hscored) h
    | cons e es => exact ⟨_, rfl⟩
  have hlead := firstBest_leads hdefined hbest
  obtain ⟨v, -, rfl⟩ := List.mem_map.mp (firstBest_mem hbest)
  have hchoice : slot.choice cache room first session = v := by
    rw [choice, winner?_eq hdefined, hbest]
    rfl
  obtain ⟨hmem, hle, before, after, hsplit, hbefore⟩ :=
    declared_of_leads hlead fun _ _ => Scalar.reading_rat _
  obtain ⟨-, hsuits, hpasses⟩ := mem_surviving.mp hmem
  rw [hchoice]
  refine ⟨hsuits, hpasses, fun w hw => Scalar.le_rat.mp (hle w hw), before, after, hsplit, ?_⟩
  exact fun w hw hws hwp => Scalar.lt_rat.mp (hbefore w hw hws hwp)

/-- Without survivors a ranking chooses what stands in. -/
theorem Slot.standsIn_choice {slot : Slot ρ} {cache : GuardCache} {room : Room} {session : Session ρ}
    [WireScalar ρ] {first : Variant ρ} (hfirst : slot.variants.head? = some first)
    (h : slot.surviving cache room session = []) :
    slot.StandsIn (slot.choice cache room first session) := by
  have hchoice : slot.choice cache room first session
      = (slot.fallbackId.bind slot.variant?).getD first := by
    rw [choice, scored, h]
    rfl
  rw [hchoice]
  exact standsIn_fallback hfirst

/-- **A ranking chooses the first declared of the highest scores.**  Take exact scores, a selection
    that is left to ranking, and eligible variants whose guards all have a verdict.  Then there is a
    decision.  If some variant survives, the chosen one is the first declared of those with the
    highest score; it is made for the session's device, as every survivor is, so each of the ranked
    scores is the weighted sum with the bonus for the device, and none has the penalty in it.  If no
    variant survives, the chosen one stands in.  The choice is to be remembered as a first pick, with
    the variant's own strength and scope, and with the default where it has none. -/
theorem ranking_chooses_first_highest {cache : GuardCache} {room : Room} {settings : Settings Rat}
    {slot : Slot Rat} {session : Session Rat} {policy : Policy Rat} {now : Rat} {first : Variant Rat}
    (trace : Bool) (hranked : route settings slot session policy now = .ranked first)
    (hjudged : ∀ v ∈ slot.eligible session,
      ∃ b, cache.answer room v.guard ⟨session, slot.id, v⟩ = .ok b) :
    ∃ d cache' chosen, decide settings (GuardCache.judge room) slot session policy trace now cache
        = (.ok d, cache') ∧
      d.result.slotId = slot.id ∧ d.result.variantId = chosen.id ∧
      d.intent = some (chosen.firstPick settings slot.id) ∧
      (slot.surviving cache room session ≠ [] → slot.FirstHighest cache room session chosen) ∧
      (slot.surviving cache room session = [] → slot.StandsIn chosen) ∧
      ∀ v ∈ slot.surviving cache room session, v.fits session.env.device = true ∧
        v.score session = v.weighted session + 1 / 20 := by
  obtain ⟨hfirst, -⟩ := Route.applies hranked
  obtain ⟨d, cache', hdecide, hslot, hvariant, hintent⟩ := decide_choice hranked hjudged
  refine ⟨d, cache', slot.choice cache room first session, hdecide, hslot, hvariant, hintent,
    fun h => Slot.firstHighest_choice h first, Slot.standsIn_choice hfirst, fun v hv => ?_⟩
  obtain ⟨-, hsuits, -⟩ := Slot.mem_surviving.mp hv
  have hfits := Variant.fits_of_suits hsuits
  exact ⟨hfits, by rw [v.score_eq, if_pos hfits]⟩

/-- Of three variants the first has the highest score but is made for another device, and the others
    have one score: the second is chosen. -/
theorem ranking_chooses_first_highest_tie :
    let heavy : ScoreWeights Rat := { lowAccuracy := some 9 }
    let light : ScoreWeights Rat := { lowAccuracy := some 2 }
    let a : Variant Rat :=
      { id := "a", labels := { deviceFit := some [.mobile] }, weights := some heavy }
    let b : Variant Rat := { id := "b", guard := some (.text "true"), weights := some light }
    let c : Variant Rat := { id := "c", weights := some light }
    let slot : Slot Rat := ⟨"s", [a, b, c], some "c"⟩
    let session : Session Rat := { metrics := { Metrics.initial with accuracy := 1 / 2 } }
    let cache : GuardCache := {}
    let room : Room := ⟨970, 970⟩
    (∃ first, route .default slot session {} 0 = .ranked first) ∧
      (∀ v ∈ slot.eligible session, ∃ b, cache.answer room v.guard ⟨session, slot.id, v⟩ = .ok b) ∧
      (∃ d cache' chosen,
        decide .default (GuardCache.judge room) slot session {} true 0 cache = (.ok d, cache') ∧
        d.result.variantId = "b" ∧ d.intent = some ⟨"s", "b", .firstPick, .weak, .lesson⟩ ∧
        chosen.id = "b" ∧ slot.FirstHighest cache room session chosen) ∧
      b.score session = b.weighted session + 1 / 20 ∧ b.weighted session = 1 := by
  intro heavy light a b c slot session cache room
  have hranked : route .default slot session {} 0 = .ranked _ := rfl
  have hjudged : ∀ v ∈ slot.eligible session,
      ∃ b, cache.answer room v.guard ⟨session, slot.id, v⟩ = .ok b :=
    List.forall_mem_cons.mpr ⟨⟨true, rfl⟩, List.forall_mem_cons.mpr ⟨⟨true, rfl⟩,
      List.forall_mem_nil _⟩⟩
  have hsome : slot.surviving cache room session ≠ [] := List.cons_ne_nil _ _
  have hb : b ∈ slot.surviving cache room session := List.mem_cons_self
  obtain ⟨d, cache', chosen, hdecide, -, hvariant, hintent, hhighest, -, hscores⟩ :=
    ranking_chooses_first_highest true hranked hjudged
  have hshown : (decide .default (GuardCache.judge room) slot session {} true 0 cache).1.toOption.map
      (fun d => (d.result.variantId, d.intent))
        = some ("b", some ⟨"s", "b", .firstPick, .weak, .lesson⟩) := by
    decide +kernel
  rw [hdecide] at hshown
  obtain ⟨hid, hremembered⟩ := Prod.mk.inj (Option.some.inj hshown)
  exact ⟨⟨_, hranked⟩, hjudged, ⟨d, cache', chosen, hdecide, hid, hremembered,
    hvariant.symm.trans hid, hhighest hsome⟩, (hscores b hb).2, by decide +kernel⟩

end LessonVariants
