import LessonVariants.Proofs.Keyed
import LessonVariants.Proofs.Ranking.Best
import LessonVariants.Proofs.Selection.FailClosed
import LessonVariants.Proofs.Selection.OwnVariants
import LessonVariants.Signal
import LessonVariants.Slot.Read
import Mathlib.Data.List.Nodup

/-! # The account of a ranking

    A traced ranking writes down verdicts and scores under the ids of the variants, and the account
    of its result is found from these records alone: who was looked at, and who had the highest
    score.  The winner is found again, since the records keep the order of the candidates
    (`Recorded.account?_highest`), and there is a fallback just if no variant survived
    (`Recorded.account?_fallback`).

    Variants of one id share a record, which then is that of the last of them.  So every eligible
    variant has its own verdict and score in the account just if their ids are distinct
    (`account_agrees_iff`). -/

namespace LessonVariants

variable {ρ : Type}

/-! ## Verdicts -/

section

variable [Scalar ρ]

/-- The variants of a slot that suit a session by their labels. -/
def Slot.eligible (slot : Slot ρ) (session : Session ρ) : List (Variant ρ) :=
  slot.variants.filter (·.suits session)

/-- Whether the guard of a variant passes, compiled and run on its own; a guard without an answer does
    not. -/
def Slot.passes (slot : Slot ρ) (cache : GuardCache) (room : Room) (session : Session ρ)
    (v : Variant ρ) : Bool :=
  match cache.answer room v.guard ⟨session, slot.id, v⟩ with
  | .ok b    => b
  | .error _ => false

/-- The eligible variants whose guards pass. -/
def Slot.surviving (slot : Slot ρ) (cache : GuardCache) (room : Room) (session : Session ρ) :
    List (Variant ρ) :=
  (slot.eligible session).filter (slot.passes cache room session)

/-- A variant as it should stand in an account: with its own verdict, and with its own score if it
    passes. -/
def Slot.ownAlternative (slot : Slot ρ) (cache : GuardCache) (room : Room) (session : Session ρ)
    (v : Variant ρ) : Alternative ρ where
  variantId   := v.id
  score       := if slot.passes cache room session v then some (v.score session) else none
  guardPassed := slot.passes cache room session v

variable {cache : GuardCache} {room : Room}

/-- Verdicts on variants are their own ones. -/
theorem verdicts_eq_ok {slot : Slot ρ} {session : Session ρ} {vs : List (Variant ρ)}
    {judged : List (Variant ρ × Bool)} (h : verdicts cache room session slot.id vs = .ok judged) :
    (∀ v ∈ vs, cache.answer room v.guard ⟨session, slot.id, v⟩
        = .ok (slot.passes cache room session v)) ∧
      judged = vs.map fun v => (v, slot.passes cache room session v) := by
  induction vs generalizing judged with
  | nil =>
      cases h
      exact ⟨List.forall_mem_nil _, rfl⟩
  | cons v vs ih =>
      rw [verdicts, List.mapM_cons] at h
      obtain ⟨e, he, hrest⟩ := bind_eq_ok.mp h
      obtain ⟨b, hb, rfl⟩ := map_eq_ok.mp he
      obtain ⟨es, hes, hjudged⟩ := bind_eq_ok.mp hrest
      cases hjudged
      obtain ⟨hall, rfl⟩ := ih hes
      have hown : slot.passes cache room session v = b := by
        rw [Slot.passes, hb]
      refine ⟨List.forall_mem_cons.mpr ⟨by rw [hown]; exact hb, hall⟩, ?_⟩
      rw [List.map_cons, hown]

/-- Those who survive their own verdicts are those who pass. -/
theorem survivors_own (slot : Slot ρ) (cache : GuardCache) (room : Room) (session : Session ρ)
    (vs : List (Variant ρ)) :
    survivors (vs.map fun v => (v, slot.passes cache room session v))
      = vs.filter (slot.passes cache room session) := by
  rw [survivors, List.filter_map, List.map_map]
  exact List.map_id _

end

/-! ## The records of a ranking -/

/-- The highest recorded score is that of the record that leads. -/
theorem SelectionResult.topScore?_eq [Scalar ρ] (r : SelectionResult ρ) :
    r.topScore? = (firstBest outscores r.why.score).map Prod.snd := by
  unfold topScore?
  cases r.why.score with
  | nil => rfl
  | cons e es => exact congrArg some (foldl_maxFirst e es)

variable [WireScalar ρ] {slot : Slot ρ} {cache : GuardCache} {room : Room} {session : Session ρ}
  {result : SelectionResult ρ}

/-- The survivors with their scores. -/
def Slot.scored (slot : Slot ρ) (cache : GuardCache) (room : Room) (session : Session ρ) :
    List (Variant ρ × ρ) :=
  (slot.surviving cache room session).map fun v => (v, v.score session)

/-- A result of a traced ranking: verdicts and scores are written down under the ids of the variants,
    one after the other, and the best of the survivors is shown. -/
structure Recorded (cache : GuardCache) (room : Room) (slot : Slot ρ) (session : Session ρ)
    (result : SelectionResult ρ) : Prop where
  guards    : result.why.guards
    = .ofEntries ((slot.eligible session).map fun v => (v.id, slot.passes cache room session v))
  score     : result.why.score
    = .ofEntries ((slot.scored cache room session).map fun e => (e.1.id, e.2))
  unforced  : result.why.overridesUsed = none
  unretained : result.why.stickyUsed = none
  shown     : ∀ best, winner? (slot.scored cache room session) = some best →
    result.variantId = best.1.id

/-- **A traced ranking writes down** the own verdict of every eligible variant and the score of every
    survivor. -/
theorem ranked_recorded {settings : Settings ρ} {first : Variant ρ} {why : Rationale ρ}
    {cache' : GuardCache} {d : Decision ρ}
    (hforced : why.overridesUsed = none) (hretained : why.stickyUsed = none)
    (h : rankedDecision settings (GuardCache.judge room) slot first session why true cache
      = (.ok d, cache')) :
    (∀ v ∈ slot.eligible session,
      cache.answer room v.guard ⟨session, slot.id, v⟩ = .ok (slot.passes cache room session v)) ∧
      Recorded cache room slot session d.result := by
  have hverdicts := cache.judgeAll_eq room session slot.id (slot.eligible session)
  obtain ⟨judged, hjudged, rfl⟩ := rankedDecision_eq_ok h
  rw [Slot.eligible, hjudged] at hverdicts
  obtain ⟨hown, rfl⟩ := verdicts_eq_ok hverdicts.symm
  refine ⟨hown, ?_, ?_, hforced, hretained, fun best hbest => ?_⟩
  · show Keyed.ofEntries (List.map _ (List.map _ _)) = _
    rw [List.map_map]
    rfl
  · show Keyed.ofEntries (List.map _ (List.map _ (survivors _))) = _
    rw [survivors_own]
    rfl
  · show (Option.getD ((winner? (List.map _ (survivors _))).map _) _ : Variant ρ).id = _
    rw [survivors_own]
    rw [Slot.scored, Slot.surviving, Slot.eligible] at hbest
    rw [hbest]
    rfl

namespace Recorded

variable (h : Recorded cache room slot session result)
include h

/-! ### Who was looked at -/

/-- Under distinct ids the verdicts stand as they were given. -/
theorem guards_eq (hids : ((slot.eligible session).map (·.id)).Nodup) :
    result.why.guards
      = (slot.eligible session).map fun v => (v.id, slot.passes cache room session v) := by
  rw [h.guards]
  refine Keyed.ofEntries_eq ?_
  rw [Keyed.keys, List.map_map]
  exact hids

/-- Under distinct ids the scores stand as they were given. -/
theorem score_eq (hids : ((slot.eligible session).map (·.id)).Nodup) :
    result.why.score = (slot.scored cache room session).map fun e => (e.1.id, e.2) := by
  rw [h.score]
  refine Keyed.ofEntries_eq ?_
  rw [Slot.scored, Keyed.keys, List.map_map, List.map_map]
  exact hids.sublist (List.filter_sublist.map _)

theorem guards_get? (hids : ((slot.eligible session).map (·.id)).Nodup) {v : Variant ρ}
    (hv : v ∈ slot.eligible session) :
    result.why.guards.get? v.id = some (slot.passes cache room session v) := by
  have hnodup : (Keyed.keys result.why.guards).Nodup := by
    rw [h.guards_eq hids, Keyed.keys, List.map_map]
    exact hids
  refine Keyed.get?_of_mem hnodup ?_
  rw [h.guards_eq hids]
  exact List.mem_map.mpr ⟨v, hv, rfl⟩

theorem score_get? (hids : ((slot.eligible session).map (·.id)).Nodup) {v : Variant ρ}
    (hv : v ∈ slot.eligible session) :
    result.why.score.get? v.id
      = if slot.passes cache room session v then some (v.score session) else none := by
  have hkeys : Keyed.keys result.why.score = (slot.surviving cache room session).map (·.id) := by
    rw [h.score_eq hids, Slot.scored, Keyed.keys, List.map_map, List.map_map]
    rfl
  split
  · next hpass =>
      refine Keyed.get?_of_mem ?_ ?_
      · rw [hkeys]
        exact hids.sublist (List.filter_sublist.map _)
      · rw [h.score_eq hids]
        have hsurvives : v ∈ slot.surviving cache room session := List.mem_filter.mpr ⟨hv, hpass⟩
        exact List.mem_map.mpr ⟨_, List.mem_map.mpr ⟨v, hsurvives, rfl⟩, rfl⟩
  · next hfail =>
      -- a survivor of the same id would be the variant itself
      refine Keyed.get?_eq_none fun hmem => hfail ?_
      rw [hkeys] at hmem
      obtain ⟨w, hw, hid⟩ := List.mem_map.mp hmem
      obtain ⟨hw, hpass⟩ := List.mem_filter.mp hw
      rw [← List.inj_on_of_nodup_map hids hw hv hid]
      exact hpass

/-- **The account lists every eligible variant with its own verdict and score just if their ids are
    distinct.** -/
theorem alternatives_iff :
    result.alternatives = (slot.eligible session).map (slot.ownAlternative cache room session) ↔
      ((slot.eligible session).map (·.id)).Nodup := by
  constructor
  · intro halternatives
    have hids := congrArg (List.map (·.variantId)) halternatives
    rw [SelectionResult.alternatives, List.map_map, List.map_map] at hids
    have hkeys : Keyed.keys result.why.guards = (slot.eligible session).map (·.id) := hids
    rw [← hkeys, h.guards]
    exact (Keyed.Each.ofEntries (P := fun _ => True) fun _ _ => trivial).nodup
  · intro hids
    rw [SelectionResult.alternatives, h.guards_eq hids, List.map_map]
    refine List.map_congr_left fun v hv => ?_
    show Alternative.mk v.id (result.why.score.get? v.id) (slot.passes cache room session v) = _
    rw [h.score_get? hids hv]
    rfl

/-! ### Who had the highest score -/

/-- There is no score to account for just if no variant survived. -/
theorem account?_fallback :
    result.account? = some .fallback ↔ slot.surviving cache room session = [] := by
  have hnone : result.why.score = [] ↔ slot.surviving cache room session = [] := by
    rw [h.score, Keyed.ofEntries_eq_nil, List.map_eq_nil_iff, Slot.scored, List.map_eq_nil_iff]
  rw [← hnone]
  unfold SelectionResult.account? SelectionResult.topScore?
  rw [h.unforced, h.unretained]
  cases result.why.score with
  | nil => exact iff_of_true rfl rfl
  | cons e es =>
      refine iff_of_false (fun haccount => ?_) (List.cons_ne_nil e es)
      obtain ⟨found, -, hfound⟩ := Option.map_eq_some_iff.mp haccount
      split at hfound
      · exact nomatch hfound
      · exact nomatch hfound

/-- **The winner is found again among the scores.**  If some variant survived, their scores are
    defined and the ids are distinct, then the shown variant is a survivor with the highest score,
    and the account says so. -/
theorem account?_highest (hids : ((slot.eligible session).map (·.id)).Nodup)
    (hdefined : ∀ v ∈ slot.surviving cache room session,
      Scalar.reading (v.score session) ≠ .undefined)
    (hsome : slot.surviving cache room session ≠ []) :
    ∃ v ∈ slot.surviving cache room session, result.variantId = v.id ∧
      (∀ e ∈ result.why.score, Scalar.le e.2 (v.score session) = true) ∧
      result.account? = some (.highestScore (v.score session)) := by
  have hscored : ∀ e ∈ slot.scored cache room session, Scalar.reading e.2 ≠ .undefined := by
    intro e he
    obtain ⟨v, hv, rfl⟩ := List.mem_map.mp he
    exact hdefined v hv
  obtain ⟨best, hbest⟩ : ∃ best, firstBest outscores (slot.scored cache room session) = some best := by
    cases hlist : slot.scored cache room session with
    | nil => exact absurd (List.map_eq_nil_iff.mp hlist) hsome
    | cons e es => exact ⟨_, rfl⟩
  have hshown := h.shown best ((winner?_eq hscored).trans hbest)
  obtain ⟨v, hv, rfl⟩ := List.mem_map.mp (firstBest_mem hbest)
  -- the scan finds the same record among the ids as it found variant among the survivors
  have hrecords := h.score_eq hids
  have hfound : firstBest outscores result.why.score = some (v.id, v.score session) := by
    rw [hrecords, firstBest_map (fun w : Variant ρ => w.id), hbest]
    rfl
  have hrecorded : ∀ e ∈ result.why.score, Scalar.reading e.2 ≠ .undefined := by
    intro e he
    rw [hrecords] at he
    obtain ⟨e', he', rfl⟩ := List.mem_map.mp he
    exact hscored e' he'
  have hlead := firstBest_leads hrecorded hfound
  refine ⟨v, hv, hshown, fun e he => hlead.le he (hrecorded e he), ?_⟩
  rw [SelectionResult.account?, h.unforced, h.unretained, result.topScore?_eq, hfound]
  show (result.why.score.find? fun e => Scalar.eq e.2 (v.score session)).map _ = _
  rw [hlead.find? (hdefined v hv), Option.map_some, if_pos hshown.symm]

end Recorded

/-! ## The theorem -/

/-- An account that agrees with the decision: it lists the eligible variants as they are, and if one
    survived, the shown variant passed its guard, has the highest of the scores, and is accounted for
    by that score. -/
structure AccountAgrees (cache : GuardCache) (room : Room) (slot : Slot ρ) (session : Session ρ)
    (result : SelectionResult ρ) : Prop where
  alternatives : result.alternatives
    = (slot.eligible session).map (slot.ownAlternative cache room session)
  passed  : slot.surviving cache room session ≠ [] →
    result.why.guards.get? result.variantId = some true
  highest : slot.surviving cache room session ≠ [] → ∃ top,
    result.why.score.get? result.variantId = some top ∧
      (∀ e ∈ result.why.score, Scalar.le e.2 top = true) ∧
      result.account? = some (.highestScore top)

/-- **The account of a traced ranking agrees with the decision just if the ids are distinct.**  Every
    eligible variant has a verdict.  There is a fallback to account for just if no variant survived.
    If the survivors' scores are defined, as they are in exact arithmetic, then the account lists
    the eligible variants with their own verdicts and scores, and the shown variant as the one with
    the highest score, just if no two eligible variants have one id. -/
theorem account_agrees_iff {settings : Settings ρ} {policy : Policy ρ} {now : ρ}
    {cache' : GuardCache} {first : Variant ρ} {d : Decision ρ}
    (hranked : route settings slot session policy now = .ranked first)
    (hdecide : decide settings (GuardCache.judge room) slot session policy true now cache
      = (.ok d, cache'))
    (hdefined : ∀ v ∈ slot.surviving cache room session,
      Scalar.reading (v.score session) ≠ .undefined) :
    (∀ v ∈ slot.eligible session,
      cache.answer room v.guard ⟨session, slot.id, v⟩ = .ok (slot.passes cache room session v)) ∧
    (d.result.account? = some .fallback ↔ slot.surviving cache room session = []) ∧
    (AccountAgrees cache room slot session d.result ↔ ((slot.eligible session).map (·.id)).Nodup) := by
  rw [decide_eq, hranked] at hdecide
  obtain ⟨hown, hrecorded⟩ := ranked_recorded rfl rfl hdecide
  refine ⟨hown, hrecorded.account?_fallback, fun h => hrecorded.alternatives_iff.mp h.alternatives,
    fun hids => ⟨hrecorded.alternatives_iff.mpr hids, fun hsome => ?_, fun hsome => ?_⟩⟩
  · obtain ⟨v, hv, hshown, -⟩ := hrecorded.account?_highest hids hdefined hsome
    obtain ⟨hmem, hpass⟩ := List.mem_filter.mp hv
    rw [hshown, hrecorded.guards_get? hids hmem, hpass]
  · obtain ⟨v, hv, hshown, hhighest⟩ := hrecorded.account?_highest hids hdefined hsome
    obtain ⟨hmem, hpass⟩ := List.mem_filter.mp hv
    refine ⟨v.score session, ?_, hhighest⟩
    rw [hshown, hrecorded.score_get? hids hmem, if_pos hpass]

/-- Of two variants with ids of their own the first passes, and the account agrees. -/
theorem account_agrees_two :
    let slot : Slot Rat := ⟨"s", [{ id := "a" }, { id := "b", guard := some (.text "false") }], none⟩
    let session : Session Rat := { metrics := Metrics.initial }
    let cache : GuardCache := {}
    let room : Room := ⟨970, 970⟩
    ((slot.eligible session).map (·.id)).Nodup ∧
      ∃ first d cache', route .default slot session {} 0 = .ranked first ∧
        decide .default (GuardCache.judge room) slot session {} true 0 cache = (.ok d, cache') ∧
        AccountAgrees cache room slot session d.result ∧ slot.surviving cache room session ≠ [] := by
  intro slot session cache room
  have hids : ((slot.eligible session).map (·.id)).Nodup := by decide
  have hranked : route .default slot session {} 0 = .ranked _ := rfl
  have hdecide : decide .default (GuardCache.judge room) slot session {} true 0 cache
      = (.ok _, _) := rfl
  obtain ⟨-, -, hagrees⟩ := account_agrees_iff hranked hdecide fun _ _ => Scalar.reading_rat _
  exact ⟨hids, _, _, _, hranked, hdecide, hagrees.mpr hids, List.cons_ne_nil _ _⟩

/-- **Two variants of one id share their records.**  The first one passes and is shown, but the
    verdict that is written down is that of the second one, which fails: the account has one
    alternative, with a failed guard and a score. -/
theorem shared_id_misaccounted :
    let slot : Slot Rat := ⟨"s", [{ id := "a" }, { id := "a", guard := some (.text "false") }], none⟩
    let session : Session Rat := { metrics := Metrics.initial }
    let cache : GuardCache := {}
    let room : Room := ⟨970, 970⟩
    Slot.read [("id", .text "s"), ("variants", .list [.object [("id", .text "a")],
        .object [("id", .text "a"), ("guard", .text "false")]])] = .ok slot ∧
      Session.create .default .null = .ok session ∧
      ∃ first d cache', route .default slot session {} 0 = .ranked first ∧
        decide .default (GuardCache.judge room) slot session {} true 0 cache = (.ok d, cache') ∧
        slot.surviving cache room session ≠ [] ∧ d.result.variantId = "a" ∧
        d.result.why.guards.get? "a" = some false ∧
        d.result.alternatives = [⟨"a", some (first.score session), false⟩] ∧
        ¬AccountAgrees cache room slot session d.result := by
  intro slot session cache room
  have hsome : slot.surviving cache room session ≠ [] := List.cons_ne_nil _ _
  refine ⟨rfl, rfl, _, _, _, rfl, rfl, hsome, rfl, rfl, rfl, fun h => ?_⟩
  exact nomatch h.passed hsome

end LessonVariants
