import LessonVariants.Proofs.Selection.Account

/-! # Explaining a selection

    A signal of a selection says how the selection came about.  Of a denied slot, of an override and
    of a record that still counts it can always say so.  Of a ranking it says that the shown variant
    has the highest score, and for this it looks for the highest one among the recorded scores.  An
    undefined score equals none, not even itself: so the search fails just if an undefined score is
    taken for the highest one, and this is so just if it leads the records (`account?_eq_none`).

    The leading record is under the id of the first survivor, and holds the score of the last survivor
    with that id (`Slot.leader?`).  Whether the signal can be built turns on this one score
    (`selection_explained_iff`). -/

namespace LessonVariants

variable {ρ : Type} [WireScalar ρ]

/-! ## The search for the highest score -/

/-- A result that neither an override nor a record decided has no account just if its leading score
    is undefined. -/
theorem SelectionResult.account?_eq_none {r : SelectionResult ρ}
    (hforced : r.why.overridesUsed = none) (hretained : r.why.stickyUsed = none) :
    r.account? = none ↔ ∃ e, r.why.score.head? = some e ∧ Scalar.reading e.2 = .undefined := by
  have hsearch : r.account? = none ↔
      ∃ top, r.topScore? = some top ∧ r.why.score.find? (fun e => Scalar.eq e.2 top) = none := by
    rw [account?, hforced, hretained]
    cases r.topScore? with
    | none =>
        constructor
        · intro h
          cases h
        · rintro ⟨_, htop, _⟩
          cases htop
    | some top =>
        refine Option.map_eq_none_iff.trans ⟨fun h => ⟨top, rfl, h⟩, ?_⟩
        rintro ⟨_, htop, h⟩
        cases htop
        exact h
  rw [hsearch, r.topScore?_eq]
  cases r.why.score with
  | nil =>
      constructor
      · rintro ⟨_, htop, _⟩
        cases htop
      · rintro ⟨_, he, _⟩
        cases he
  | cons e es =>
      constructor
      · rintro ⟨top, htop, hnone⟩
        refine ⟨e, rfl, Decidable.byContradiction fun hdefined => ?_⟩
        -- from a defined score on the scan ends at a recorded one, which equals itself
        obtain ⟨best, hbest, rfl⟩ := Option.map_eq_some_iff.mp htop
        have hself := Scalar.eq_self (firstBest_defined hdefined hbest)
        exact absurd hself (List.find?_eq_none.mp hnone best (firstBest_mem hbest))
      · rintro ⟨_, he, hundefined⟩
        cases he
        refine ⟨e.2, ?_, List.find?_eq_none.mpr fun d _ => ?_⟩
        · rw [firstBest_undefined hundefined es]
          rfl
        · rw [Scalar.eq_of_undefined d.2 hundefined]
          exact Bool.false_ne_true

/-! ## The score that leads the records -/

/-- The survivor whose score leads the records: the last one that has the id of the first one. -/
def Slot.leader? (slot : Slot ρ) (cache : GuardCache) (room : Room) (session : Session ρ) :
    Option (Variant ρ) :=
  (slot.surviving cache room session).head?.bind fun first =>
    (slot.surviving cache room session).reverse.find? fun v => v.id == first.id

variable {slot : Slot ρ} {cache : GuardCache} {room : Room} {session : Session ρ}
  {result : SelectionResult ρ}

/-- Among survivors there is one whose score leads, and it is the last one with its id. -/
theorem Slot.leader?_of_survivors {first : Variant ρ} {rest : List (Variant ρ)}
    (h : slot.surviving cache room session = first :: rest) :
    ∃ before v after, slot.leader? cache room session = some v ∧ first :: rest = before ++ v :: after ∧
      v.id = first.id ∧ ∀ w ∈ after, w.id ≠ v.id := by
  unfold leader?
  rw [h]
  cases hfound : (first :: rest).reverse.find? fun v => v.id == first.id with
  | none =>
      have hfirst := List.find?_eq_none.mp hfound first (List.mem_reverse.mpr List.mem_cons_self)
      exact absurd (beq_iff_eq.mpr rfl) hfirst
  | some v =>
      obtain ⟨hid, before, after, hsplit, hbefore⟩ := List.find?_eq_some_iff_append.mp hfound
      have hid : v.id = first.id := beq_iff_eq.mp hid
      refine ⟨after.reverse, v, before.reverse, hfound, ?_, hid, fun w hw => ?_⟩
      · rw [← (first :: rest).reverse_reverse, hsplit, List.reverse_append, List.reverse_cons,
          List.append_assoc]
        rfl
      · intro hw'
        have hne := hbefore w (List.mem_reverse.mp hw)
        rw [hw'.trans hid, beq_self_eq_true] at hne
        exact nomatch hne

/-- The records of a ranking are led by the score of that survivor. -/
theorem Recorded.score_head? (h : Recorded cache room slot session result) :
    result.why.score.head?
      = (slot.leader? cache room session).map fun v => (v.id, v.score session) := by
  rw [h.score, Slot.scored, List.map_map]
  cases hsurvive : slot.surviving cache room session with
  | nil =>
      rw [Slot.leader?, hsurvive]
      rfl
  | cons first rest =>
      obtain ⟨before, v, after, hleader, hsplit, hid, hafter⟩ := Slot.leader?_of_survivors hsurvive
      have hentries := congrArg (List.map fun w => (w.id, w.score session)) hsplit
      rw [List.map_append] at hentries
      rw [hleader]
      refine Keyed.head?_ofEntries_eq hentries (congrArg some hid.symm) fun hmem => ?_
      rw [Keyed.keys, List.map_map] at hmem
      obtain ⟨w, hw, hwid⟩ := List.mem_map.mp hmem
      exact hafter w hw hwid

/-! ## The theorem -/

/-- A selection of which no account can be given: the variants are ranked, and the score that leads
    the records is undefined. -/
structure Unexplained (cache : GuardCache) (room : Room) (settings : Settings ρ) (slot : Slot ρ)
    (session : Session ρ) (policy : Policy ρ) (now : ρ) : Prop where
  ranked    : ∃ first, route settings slot session policy now = .ranked first
  undefined : ∃ v, slot.leader? cache room session = some v ∧
    Scalar.reading (v.score session) = .undefined

/-- **A traced decision has no account just if it is by ranking and its leading score is
    undefined.** -/
theorem decide_account?_eq_none {settings : Settings ρ} {policy : Policy ρ} {now : ρ}
    {cache' : GuardCache} {d : Decision ρ}
    (h : decide settings (GuardCache.judge room) slot session policy true now cache
      = (.ok d, cache')) :
    d.result.account? = none ↔ Unexplained cache room settings slot session policy now := by
  -- a step other than ranking leaves word of itself in the result, or records no score
  have hother : ∀ {step : Route ρ}, route settings slot session policy now = step →
      (∀ first, step ≠ .ranked first) → d.result.account? ≠ none →
        (d.result.account? = none ↔ Unexplained cache room settings slot session policy now) := by
    rintro _ rfl hstep hsome
    exact iff_of_false hsome fun ⟨⟨first, hranked⟩, _⟩ => hstep first hranked
  rcases decide_inv h with
    ⟨first, hroute, rfl⟩ | ⟨id, hroute, rfl⟩ | ⟨r, hroute, rfl⟩ | ⟨first, hroute, hranked⟩
  · exact hother hroute (fun _ h => nomatch h) fun hnone => nomatch hnone
  · exact hother hroute (fun _ h => nomatch h) fun hnone => nomatch hnone
  · exact hother hroute (fun _ h => nomatch h) fun hnone => nomatch hnone
  · obtain ⟨-, hrecorded⟩ := ranked_recorded rfl rfl hranked
    rw [SelectionResult.account?_eq_none hrecorded.unforced hrecorded.unretained,
      hrecorded.score_head?]
    constructor
    · rintro ⟨e, he, hundefined⟩
      obtain ⟨v, hv, rfl⟩ := Option.map_eq_some_iff.mp he
      exact ⟨⟨first, hroute⟩, v, hv, hundefined⟩
    · rintro ⟨-, v, hv, hundefined⟩
      exact ⟨_, Option.map_eq_some_iff.mpr ⟨v, hv, rfl⟩, hundefined⟩

/-- Under a clock that shows a finite time, a signal of a selection lacks nothing but an account. -/
theorem Report.selected_signal {r : SelectionResult Number} {time : Number} {q : Rat}
    (htime : Scalar.reading time = .finite q) (shown : Option (List (Data Number)))
    (own : SignalIds Number) (nonce : String) :
    (∃ s, (Report.selected r shown).signal own (.number time) nonce = .ok s) ↔
      ∃ a, r.account? = some a := by
  have hclock : clockTime (.number time) = .ok (q.num.tdiv q.den) := by
    show wholeTime time = _
    rw [wholeTime, htime]
  cases haccount : r.account? with
  | none =>
      have hpayload : (Report.selected r shown).payload = .error .noAccount := by
        rw [payload, haccount]
      rw [signal, hpayload]
      exact iff_of_false (fun ⟨_, h⟩ => nomatch h) (fun ⟨_, h⟩ => nomatch h)
  | some a =>
      obtain ⟨data, hpayload⟩ : ∃ data, (Report.selected r shown).payload = .ok data := by
        rw [payload, haccount]
        exact ⟨_, rfl⟩
      rw [signal, hpayload, hclock]
      exact iff_of_true ⟨_, rfl⟩ ⟨a, rfl⟩

/-- **The signal of a traced selection can be built just if the score that leads a ranking is not
    undefined.**  Then the selection has an account, and under a clock that shows a finite time its
    signal comes out; else it has neither. -/
theorem selection_explained_iff {settings : Settings Number} {slot : Slot Number}
    {session session' : Session Number} {policy : Policy Number} {now time : Number} {q : Rat}
    {cache' : GuardCache} {result : SelectionResult Number}
    (hselect : select settings (GuardCache.judge room) slot session policy true now cache
      = (.ok (result, session'), cache'))
    (htime : Scalar.reading time = .finite q) (shown : Option (List (Data Number)))
    (own : SignalIds Number) (nonce : String) :
    ((∃ a, result.account? = some a) ↔ ¬Unexplained cache room settings slot session policy now) ∧
      ((∃ s, (Report.selected result shown).signal own (.number time) nonce = .ok s) ↔
        ¬Unexplained cache room settings slot session policy now) := by
  obtain ⟨d, hdecide, rfl, -⟩ := select_eq_ok.mp hselect
  have haccount : (∃ a, d.result.account? = some a) ↔
      ¬Unexplained cache room settings slot session policy now := by
    rw [← decide_account?_eq_none hdecide, Option.eq_none_iff_forall_ne_some, not_forall]
    exact exists_congr fun a => not_not.symm
  exact ⟨haccount, (Report.selected_signal htime shown own nonce).trans haccount⟩

/-- The second of two scores is undefined, and the result is explained by the first. -/
theorem selection_explained_second :
    let slot : Slot Number := ⟨"s",
      [{ id := "a" }, { id := "b", weights := some { lowAccuracy := some (.float (1.0 / 0)) } }],
      none⟩
    let session : Session Number := { metrics := Metrics.initial }
    let cache : GuardCache := {}
    let room : Room := ⟨970, 970⟩
    Scalar.reading (Number.int 0) = .finite 0 ∧
      ∃ result session' cache',
        select .default (GuardCache.judge room) slot session {} true (.int 0) cache
          = (.ok (result, session'), cache') ∧
        (∃ e ∈ result.why.score, Scalar.reading e.2 = .undefined) ∧
        (∃ a, result.account? = some a) ∧
        ∃ s, (Report.selected result none).signal session.ids.signalIds (.number (.int 0)) "n"
          = .ok s := by
  intro slot session cache room
  have hselect : select .default (GuardCache.judge room) slot session {} true (.int 0) cache
      = (.ok (_, _), _) := rfl
  have htime : Scalar.reading (Number.int 0) = .finite 0 := rfl
  have hexplained : ¬Unexplained cache room .default slot session {} (.int 0) := by
    rintro ⟨-, v, hv, hundefined⟩
    have hleader : slot.leader? cache room session = some { id := "a" } := rfl
    cases hleader.symm.trans hv
    revert hundefined
    decide +kernel
  obtain ⟨haccount, hsignal⟩ :=
    selection_explained_iff hselect htime none session.ids.signalIds "n"
  refine ⟨htime, _, _, _, hselect, ⟨_, List.mem_cons_of_mem _ List.mem_cons_self, ?_⟩,
    haccount.mpr hexplained, hsignal.mpr hexplained⟩
  decide +kernel

/-- **Data that is read without complaint can lead to a selection that no signal can be built for.**
    The weight is infinite and the learner makes no mistakes, so that the only score is undefined. -/
theorem undefined_score_unexplained :
    let slot : Slot Number :=
      ⟨"s", [{ id := "a", weights := some { lowAccuracy := some (.float (1.0 / 0)) } }], none⟩
    let session : Session Number := { metrics := Metrics.initial }
    let cache : GuardCache := {}
    let room : Room := ⟨970, 970⟩
    Slot.read [("id", .text "s"), ("variants", .list [.object [("id", .text "a"),
        ("scoreWeights", .object [("preferLowAcc", .text "inf")])]])] = .ok slot ∧
      Session.create .default .null = .ok session ∧
      ∃ result session' cache',
        select .default (GuardCache.judge room) slot session {} true (.int 0) cache
          = (.ok (result, session'), cache') ∧
        result.account? = none ∧
        (Report.selected result none).signal session.ids.signalIds (.number (.int 0)) "n"
          = .error .noAccount := by
  intro slot session cache room
  have hselect : select .default (GuardCache.judge room) slot session {} true (.int 0) cache
      = (.ok (_, _), _) := rfl
  have hundefined : Scalar.reading (Variant.score
      { id := "a", weights := some { lowAccuracy := some (.float (1.0 / 0)) } } session)
        = .undefined := by
    decide +kernel
  obtain ⟨d, hdecide, hresult, -⟩ := select_eq_ok.mp hselect
  have haccount := (decide_account?_eq_none hdecide).mpr ⟨⟨_, rfl⟩, _, rfl, hundefined⟩
  rw [hresult] at haccount
  refine ⟨rfl, rfl, _, _, _, hselect, haccount, ?_⟩
  rw [Report.signal, Report.payload, haccount]
  rfl

end LessonVariants
