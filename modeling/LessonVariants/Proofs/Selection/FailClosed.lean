import LessonVariants.Proofs.Guard.Verdict
import LessonVariants.Proofs.Selection.Routes
import LessonVariants.Session.Create

/-! # How far guards fail closed

    Guard text that does not parse and expressions without a value reject a variant; they abort
    nothing.  Three kinds of text do abort: one with an integer of too many digits, one whose
    evaluation comes to a list that is read at no finite index, and one whose evaluation fails on a
    value that cannot be shown, for it holds an integer of too many digits (`GuardCache.Escapes`).  A
    selection fails because of guard text just if it is left to ranking, and one of the eligible
    variants has such a text while all before it have an answer (`RankingEscapes`). -/

namespace LessonVariants

variable {ρ : Type}

/-- Whether a failure comes from guard text, not from a test of the caller's own. -/
def GuardFailure.ofText : GuardFailure ρ → Bool
  | caller _ => false
  | _        => true

/-! ## The answers on many variants -/

/-- The answers of a cache on variants, in order, up to the first failure. -/
def verdicts [Scalar ρ] (cache : GuardCache) (room : Room) (session : Session ρ) (slotId : String)
    (vs : List (Variant ρ)) : Except (GuardFailure ρ) (List (Variant ρ × Bool)) :=
  vs.mapM fun v => (cache.answer room v.guard ⟨session, slotId, v⟩).map fun b => (v, b)

theorem verdicts_cons [Scalar ρ] (cache : GuardCache) (room : Room) (session : Session ρ)
    (slotId : String) (v : Variant ρ) (vs : List (Variant ρ)) :
    verdicts cache room session slotId (v :: vs) = (do
      let b ← cache.answer room v.guard ⟨session, slotId, v⟩
      let rest ← verdicts cache room session slotId vs
      pure ((v, b) :: rest)) := by
  rw [verdicts, List.mapM_cons]
  cases cache.answer room v.guard ⟨session, slotId, v⟩ <;> rfl

/-- Variants that are answered alike for two sessions have the same answers one after the other. -/
theorem verdicts_congr [Scalar ρ] {cache cache' : GuardCache} {room : Room} {s s' : Session ρ}
    {slotId : String} {vs : List (Variant ρ)}
    (h : ∀ v ∈ vs,
      cache'.answer room v.guard ⟨s', slotId, v⟩ = cache.answer room v.guard ⟨s, slotId, v⟩) :
    verdicts cache' room s' slotId vs = verdicts cache room s slotId vs := by
  induction vs with
  | nil => rfl
  | cons v vs ih =>
      have hrest := ih fun w hw => h w (List.mem_cons_of_mem v hw)
      rw [verdicts_cons, verdicts_cons, h v List.mem_cons_self, hrest]

/-- Caches that read the same give the same answers. -/
theorem verdicts_congr_reading [Scalar ρ] {cache cache' : GuardCache} {room : Room}
    (h : cache'.reading room.parsing = cache.reading room.parsing) (session : Session ρ)
    (slotId : String) (vs : List (Variant ρ)) :
    verdicts cache' room session slotId vs = verdicts cache room session slotId vs :=
  verdicts_congr fun _ _ => GuardCache.answer_congr (fun source _ => congrFun h source) _

variable [WireScalar ρ]

/-- Judging variants one after the other changes nothing in what the cache reads. -/
theorem GuardCache.judgeAll_reading (cache : GuardCache) (room : Room) (session : Session ρ)
    (slotId : String) (vs : List (Variant ρ)) :
    (judgeAll (GuardCache.judge room) session slotId vs cache).2.reading room.parsing
      = cache.reading room.parsing := by
  induction vs generalizing cache with
  | nil => rfl
  | cons v vs ih =>
      have hread := cache.judge_reading room ⟨session, slotId, v⟩
      rw [judgeAll]
      cases hjudge : GuardCache.judge room ⟨session, slotId, v⟩ cache with
      | mk outcome cache' =>
          rw [hjudge] at hread
          cases outcome with
          | error f => exact hread
          | ok b =>
              dsimp only at hread ⊢
              rw [← hread, ← ih cache']
              cases judgeAll (GuardCache.judge room) session slotId vs cache' with
              | mk rest cache'' => cases rest <;> rfl

/-- **Judging variants one after the other gives the answers of the cache as it was before.** -/
theorem GuardCache.judgeAll_eq (cache : GuardCache) (room : Room) (session : Session ρ)
    (slotId : String) (vs : List (Variant ρ)) :
    (judgeAll (GuardCache.judge room) session slotId vs cache).1
      = verdicts cache room session slotId vs := by
  induction vs generalizing cache with
  | nil => rfl
  | cons v vs ih =>
      -- judging changes the cache, but not what it reads, so the other answers stay as well
      have hanswer := cache.judge_answer room ⟨session, slotId, v⟩
      have hread := cache.judge_reading room ⟨session, slotId, v⟩
      rw [verdicts_cons, judgeAll]
      cases hjudge : GuardCache.judge room ⟨session, slotId, v⟩ cache with
      | mk outcome cache' =>
          rw [hjudge] at hanswer hread
          dsimp only at hanswer hread
          rw [← hanswer]
          cases outcome with
          | error f => rfl
          | ok b =>
              dsimp only
              rw [← verdicts_congr_reading hread session slotId vs, ← ih cache']
              cases judgeAll (GuardCache.judge room) session slotId vs cache' with
              | mk rest cache'' => cases rest <;> rfl

/-! ## Failures of guard text -/

section

variable {cache : GuardCache} {room : Room}

omit [WireScalar ρ] in
/-- Guard text fails for what it is. -/
theorem GuardCache.textVerdict_ofText [Scalar ρ] {source : String} {scope : Root → Value ρ}
    {f : GuardFailure ρ} (h : cache.textVerdict room source scope = .error f) : f.ofText = true := by
  unfold textVerdict at h
  split at h
  · exact nomatch h
  · split at h
    · cases h
      rfl
    · exact nomatch h
    · next e _ =>
        unfold Expr.holds at h
        split at h
        · exact nomatch h
        · split at h
          · cases h
            rfl
          · exact nomatch h

omit [WireScalar ρ] in
/-- A guard fails, and not for a test of the caller's, just if it is a text without a verdict. -/
theorem GuardCache.answer_ofText [Scalar ρ] {guard : Option (Guard ρ)} {a : Activation ρ} :
    (∃ f, cache.answer room guard a = .error f ∧ f.ofText = true) ↔
      ∃ source, guard = some (.text source) ∧ cache.Escapes room source a.scope := by
  cases guard with
  | none =>
      constructor
      · rintro ⟨f, h, -⟩
        cases h
      · rintro ⟨s, h, -⟩
        cases h
  | some g =>
      cases g with
      | test run =>
          constructor
          · rintro ⟨f, h, hf⟩
            simp only [answer, compile, Predicate.run, Predicate.runIn] at h
            split at h
            · cases h
            · cases h
              cases hf
          · rintro ⟨s, h, -⟩
            cases h
      | text source =>
          rw [answer_text]
          constructor
          · rintro ⟨f, h, -⟩
            exact ⟨source, rfl, textVerdict_error_iff.mp ⟨f, h⟩⟩
          · rintro ⟨s, hs, hescapes⟩
            cases hs
            obtain ⟨f, h⟩ := textVerdict_error_iff.mpr hescapes
            exact ⟨f, h, textVerdict_ofText h⟩

/-- Whether a selection is left to ranking and comes to a variant whose guard text has no verdict,
    while the eligible variants before it all have an answer. -/
def RankingEscapes (cache : GuardCache) (room : Room) (settings : Settings ρ) (slot : Slot ρ)
    (session : Session ρ) (policy : Policy ρ) (now : ρ) : Prop :=
  ∃ first before v after source, route settings slot session policy now = .ranked first ∧
    slot.variants.filter (·.suits session) = before ++ v :: after ∧
    v.guard = some (.text source) ∧
    cache.Escapes room source (Activation.mk session slot.id v).scope ∧
    ∀ w ∈ before, ∃ b, cache.answer room w.guard ⟨session, slot.id, w⟩ = .ok b

/-- The answers fail for guard text just if one does while all before it come out. -/
theorem verdicts_ofText {session : Session ρ} {slotId : String} {vs : List (Variant ρ)} :
    (∃ f, verdicts cache room session slotId vs = .error f ∧ f.ofText = true) ↔
      ∃ before v after source, vs = before ++ v :: after ∧ v.guard = some (.text source) ∧
        cache.Escapes room source (Activation.mk session slotId v).scope ∧
        ∀ w ∈ before, ∃ b, cache.answer room w.guard ⟨session, slotId, w⟩ = .ok b := by
  constructor
  · rintro ⟨f, h, hf⟩
    obtain ⟨before, v, after, rfl, hbefore, hv⟩ := mapM_eq_error.mp h
    obtain ⟨source, hguard, hescapes⟩ := GuardCache.answer_ofText.mp ⟨f, map_eq_error.mp hv, hf⟩
    refine ⟨before, v, after, source, rfl, hguard, hescapes, fun w hw => ?_⟩
    obtain ⟨_, hmap⟩ := hbefore w hw
    obtain ⟨b, hb, -⟩ := map_eq_ok.mp hmap
    exact ⟨b, hb⟩
  · rintro ⟨before, v, after, source, rfl, hguard, hescapes, hbefore⟩
    obtain ⟨f, hv, hf⟩ := GuardCache.answer_ofText.mpr ⟨source, hguard, hescapes⟩
    refine ⟨f, mapM_eq_error.mpr ⟨before, v, after, rfl, fun w hw => ?_, map_eq_error.mpr hv⟩, hf⟩
    obtain ⟨b, hb⟩ := hbefore w hw
    exact ⟨(w, b), map_eq_ok.mpr ⟨b, hb, rfl⟩⟩

end

variable {settings : Settings ρ} {slot : Slot ρ} {session : Session ρ} {policy : Policy ρ}
  {trace : Bool} {now : ρ} {room : Room} {calls : Nat → String → Prop} {cache : GuardCache}

/-- A decision fails for guard text just if ranking does. -/
theorem decide_ofText :
    (∃ f, (decide settings (GuardCache.judge room) slot session policy trace now cache).1
        = .error (.guard f) ∧ f.ofText = true) ↔
      RankingEscapes cache room settings slot session policy now := by
  -- no other step than ranking judges a guard
  have hother : ∀ {r : Route ρ}, route settings slot session policy now = r →
      (∀ first, r ≠ .ranked first) → ¬RankingEscapes cache room settings slot session policy now := by
    rintro r hroute hr ⟨first, _, _, _, _, h, -⟩
    exact hr first (hroute.symm.trans h)
  rw [decide_eq]
  cases hroute : route settings slot session policy now with
  | ranked first =>
      dsimp only
      constructor
      · rintro ⟨f, h, hf⟩
        have hjudged := rankedDecision_error.mp h
        rw [GuardCache.judgeAll_eq] at hjudged
        obtain ⟨before, v, after, source, hsplit, hrest⟩ := verdicts_ofText.mp ⟨f, hjudged, hf⟩
        exact ⟨first, before, v, after, source, hroute, hsplit, hrest⟩
      · rintro ⟨_, before, v, after, source, -, hsplit, hrest⟩
        obtain ⟨f, h, hf⟩ := verdicts_ofText.mpr ⟨before, v, after, source, hsplit, hrest⟩
        refine ⟨f, rankedDecision_error.mpr ?_, hf⟩
        rw [GuardCache.judgeAll_eq]
        exact h
  | denied first =>
      refine iff_of_false ?_ (hother hroute fun _ h => nomatch h)
      rintro ⟨f, h, -⟩
      dsimp only at h
      rcases slot.denied_cases settings first { policyVersion := policy.version } with hno | hyes
      · rw [hno] at h
        exact nomatch h
      · rw [hyes] at h
        exact nomatch h
  | _ =>
      refine iff_of_false ?_ (hother hroute fun _ h => nomatch h)
      rintro ⟨f, h, -⟩
      exact nomatch h

/-- A selection fails for a guard just if its decision does. -/
theorem select_eq_guard {f : GuardFailure ρ} :
    (select settings (GuardCache.judge room) slot session policy trace now cache).1
        = .error (.guard f) ↔
      (decide settings (GuardCache.judge room) slot session policy trace now cache).1
        = .error (.guard f) := by
  unfold select
  cases decide settings (GuardCache.judge room) slot session policy trace now cache with
  | mk outcome cache' =>
      cases outcome with
      | error e =>
          constructor
          · intro h
            cases h
            rfl
          · intro h
            cases h
            rfl
      | ok d =>
          refine iff_of_false (fun h => ?_) (fun h => nomatch h)
          dsimp only at h
          split at h
          · exact nomatch h
          · split at h <;> exact nomatch h

/-- **An integer that cannot be written aborts a selection.**  The text `session.metrics.streak < 'a'`
    asks for an order between a number and a text.  That is an error that a guard may fail with, but
    telling it shows the number. -/
theorem unshown_integer_aborts {n : Int} (hn : Number.hasText (.int n) = false) :
    let room : Room := ⟨970, 970⟩
    let session : Session Number := { metrics := { Metrics.initial with streak := n } }
    let variant : Variant Number :=
      { id := "v", guard := some (.text "session.metrics.streak < 'a'") }
    ∃ f, (select Settings.default (GuardCache.judge room) ⟨"s", [variant], none⟩ session {} false
      (.int 0) {}).1 = .error (.guard f) ∧ f.ofText = true := by
  intro room session variant
  let scope := (Activation.mk session "s" variant).scope
  let streak : Expr := .path .session [.key "metrics", .key "streak"]
  have hparse : parseGuard 970 "session.metrics.streak < 'a'"
      = .ok (.compare .below streak (.literal (.text "a"))) := rfl
  have hstreak : streak.evalWithin scope 969 = .ok (.number (.int n)) := rfl
  have htext : (Expr.literal (.text "a")).evalWithin scope 969 = .ok (.text "a") := rfl
  have hwritten : Scalar.hasText (Number.int n) = false := hn
  have hshown : Value.itemsObstacle? [.number (Number.int n), .text "a"] 969 = some .digits := by
    rw [Value.itemsObstacle?, Value.obstacle?, hwritten]
    rfl
  have hescapes : GuardCache.Escapes {} room "session.metrics.streak < 'a'" scope :=
    ⟨rfl, .inr ⟨_, GuardCache.parse_eq_some.mpr hparse,
      .compareShown hstreak htext rfl rfl hshown⟩⟩
  have hranking : RankingEscapes {} room Settings.default ⟨"s", [variant], none⟩ session {}
      (.int 0) :=
    ⟨variant, [], variant, [], _, rfl, rfl, rfl, hescapes, List.forall_mem_nil _⟩
  obtain ⟨f, hf, hfail⟩ := decide_ofText.mpr hranking
  exact ⟨f, select_eq_guard.mpr hf, hfail⟩

end LessonVariants
