import LessonVariants.Proofs.Guard.Renumbering
import LessonVariants.Proofs.Selection.Agreement
import LessonVariants.Proofs.Session.Reload

/-! # A reloaded session is as good as the original

    Every session that can be come to is read back from what is written of it, and written again as
    before, but for counters that have turned from the integer zero to the double
    (`saving_loses_nothing`).

    No guard text can tell the two sessions apart, for the two zeros have one reading, and so have
    their negatives.  So decisions on the two come out the same, as long as the caller's own tests
    and policy look at nothing but what is written of a session (`SeesWritten`). -/

namespace LessonVariants

/-! ## Zeros -/

/-- A number with the integer zero turned into the double. -/
def Number.zeroAsReal : Number → Number
  | .int 0 => .float 0.0
  | n      => n

/-- Whether a number is a zero of any kind and sign. -/
def Number.IsZero (n : Number) : Prop :=
  n = .int 0 ∨ n = .float 0.0 ∨ n = .float (-0.0)

instance (n : Number) : Decidable n.IsZero :=
  inferInstanceAs (Decidable (_ ∨ _ ∨ _))

/-- A number with all zeros turned into one. -/
def Number.oneZero (n : Number) : Number :=
  if n.IsZero then .float 0.0 else n

theorem Number.IsZero.neg {n : Number} (h : n.IsZero) : (-n).IsZero := by
  rcases h with rfl | rfl | rfl
  · exact Or.inl rfl
  · exact Or.inr (Or.inr (by decide +kernel))
  · exact Or.inr (Or.inl (by decide +kernel))

theorem Number.IsZero.reading_eq {n : Number} (h : n.IsZero) :
    Scalar.reading n = Scalar.reading (Number.float 0.0) := by
  rcases h with rfl | rfl | rfl <;> decide +kernel

theorem Number.IsZero.hasText {n : Number} (h : n.IsZero) : Scalar.hasText n = true := by
  rcases h with rfl | rfl | rfl
  · decide +kernel
  · rfl
  · rfl

theorem Number.oneZero_of {n : Number} (h : n.IsZero) : n.oneZero = .float 0.0 :=
  if_pos h

theorem Number.oneZero_of_not {n : Number} (h : ¬n.IsZero) : n.oneZero = n :=
  if_neg h

/-- **All zeros count as one in guards.** -/
theorem Number.oneZero_harmless : Harmless oneZero where
  readings n := by
    by_cases hn : n.IsZero
    · rw [oneZero_of hn, hn.reading_eq]
    · rw [oneZero_of_not hn]
  texts n := by
    by_cases hn : n.IsZero
    · rw [oneZero_of hn, hn.hasText]
      rfl
    · rw [oneZero_of_not hn]
  negate {m n} h := by
    -- numbers made equal are both zeros, or equal already
    have hzero : IsZero (.float 0.0) := Or.inr (Or.inl rfl)
    by_cases hm : m.IsZero
    · by_cases hn : n.IsZero
      · rw [oneZero_of hm.neg, oneZero_of hn.neg]
      · rw [oneZero_of hm, oneZero_of_not hn] at h
        exact absurd (h ▸ hzero) hn
    · by_cases hn : n.IsZero
      · rw [oneZero_of hn, oneZero_of_not hm] at h
        exact absurd (h.symm ▸ hzero) hm
      · rw [oneZero_of_not hm, oneZero_of_not hn] at h
        rw [h]

/-! ## The views of a reloaded session -/

section Views

variable {g : Number → Number} (hg : g (.int 0) = g (.float 0.0))

include hg

theorem Number.IsCount.map_asReal {n : Number} (h : n.IsCount) : g n.asReal = g n := by
  rcases h with rfl | ⟨x, rfl⟩
  · exact hg.symm
  · rfl

theorem Metrics.view_settled {m : Metrics Number} (h : m.Sound) :
    m.settled.view.mapNumbers g = m.view.mapNumbers g := by
  simp only [Metrics.view, Metrics.settled, Value.mapNumbers, Value.mapFields,
    h.idleSec.map_asReal hg]

theorem SkillStats.view_settled {s : SkillStats Number} (h : s.Sound) :
    s.settled.view.mapNumbers g = s.view.mapNumbers g := by
  simp only [SkillStats.view, SkillStats.settled, Value.mapNumbers, Value.mapFields,
    h.lastTs.map_asReal hg]

/-- **A reloaded session looks like the original**, to all who take the two zeros for one. -/
theorem Session.view_settled {s : Session Number} (h : s.Sound) :
    Value.Renumbered g s.settled.view s.view := by
  have hskills : (Value.ofKeyed SkillStats.view s.settled.perSkill).mapNumbers g
      = (Value.ofKeyed SkillStats.view s.perSkill).mapNumbers g := by
    simp only [Value.ofKeyed, Value.mapNumbers, Value.mapEntries_eq_map, Session.settled,
      List.map_map]
    refine congrArg Value.object (List.map_congr_left fun e he => ?_)
    exact congrArg (e.1, ·) (SkillStats.view_settled hg (h.perSkill.all e he))
  have hmetrics := Metrics.view_settled hg h.metrics
  unfold Value.Renumbered Session.view
  simp only [Value.mapNumbers, Value.mapFields, hskills]
  rw [show s.settled.metrics = s.metrics.settled from rfl, hmetrics]
  rfl

end Views

/-! ## What is written of a session -/

/-- Whether two sessions are written alike, with the integer zero and the double taken for one. -/
def Session.WrittenAlike (s s' : Session Number) : Prop :=
  s.toData.mapNumbers Number.zeroAsReal = s'.toData.mapNumbers Number.zeroAsReal

/-- A function of the caller's own that sees of a session only what is written of it. -/
def SeesWritten {α : Type} (f : Session Number → α) : Prop :=
  ∀ s s', s.WrittenAlike s' → f s = f s'

theorem Session.writtenAlike_settled {s : Session Number} (h : s.Sound) :
    s.settled.WrittenAlike s := by
  have hview := congrArg Value.toData (view_settled (g := Number.zeroAsReal) rfl h)
  rwa [Value.toData_mapNumbers, Value.toData_mapNumbers] at hview

/-- **A decision takes a reloaded session for the original.** -/
theorem Session.interchangeable_settled {s : Session Number} (h : s.Sound)
    {slot : Slot Number} {policy : Policy Number} (hpolicy : SeesWritten (policy.verdict slot))
    (htests : ∀ v ∈ slot.variants, ∀ run, v.guard = some (.test run) →
      SeesWritten fun s => run s slot.id)
    {room : Room} {cache cache' : GuardCache}
    (hreading : cache'.reading room.parsing = cache.reading room.parsing)
    (settings : Settings Number) (now : Number) :
    Interchangeable room settings slot policy now s s.settled cache cache' where
  verdict := hpolicy _ _ (writtenAlike_settled h)
  override := rfl
  record := rfl
  suits _ := rfl
  score _ := rfl
  guard v hv := by
    rw [GuardCache.answer_congr fun source _ => congrFun hreading source]
    cases hguard : v.guard with
    | none => rfl
    | some guard =>
        cases guard with
        | test run =>
            have hrun := htests v hv run hguard _ _ (writtenAlike_settled h)
            dsimp only at hrun
            simp only [GuardCache.answer, GuardCache.compile, Predicate.run, Predicate.runIn, hrun]
        | text source =>
            have hzero : Number.oneZero (.int 0) = Number.oneZero (.float 0.0) := rfl
            rw [GuardCache.answer_text, GuardCache.answer_text]
            refine GuardCache.textVerdict_congr Number.oneZero_harmless.unseen fun e _ p _ => ?_
            refine pathAlike_of_renumbered (fun r => ?_) p
            cases r with
            | session => exact view_settled hzero h
            | slotId => rfl
            | variant => rfl

/-- **Saving and reloading a session loses nothing.**  Take any session that can be come to, and any
    settings.  Opening what is written of it succeeds and gives a session that is written alike,
    with the same remembered choices, unreadable ones among them, and the same audited events, with
    all their data.

    A decision on any slot comes out the same on both, under all settings and policies, in any room, at
    any time, with or without a trace, and from any two guard caches whose calls in the past ran out
    of room just on the texts on which one of now would, if the caller's own tests and policy see of a
    session only what is written of it. -/
theorem saving_loses_nothing {s : Session Number} (h : s.Reachable) (settings : Settings Number) :
    ∃ s', Session.create settings s.toData = .ok s' ∧ s'.WrittenAlike s ∧
      s'.sticky = s.sticky ∧ s'.trace = s.trace ∧
      ∀ (room : Room) (settings' : Settings Number) (slot : Slot Number) (policy : Policy Number)
        (trace : Bool) (now : Number) (cache cache' : GuardCache),
        cache.Reachable (CutAlike room.parsing) → cache'.Reachable (CutAlike room.parsing) →
        SeesWritten (policy.verdict slot) →
        (∀ v ∈ slot.variants, ∀ run, v.guard = some (.test run) →
          SeesWritten fun s => run s slot.id) →
        (decide settings' (GuardCache.judge room) slot s' policy trace now cache').1
          = (decide settings' (GuardCache.judge room) slot s policy trace now cache).1 := by
  refine ⟨s.settled, Session.create_toData h.sound settings, Session.writtenAlike_settled h.sound,
    rfl, rfl, fun room settings' slot policy trace now cache cache' hcache hcache' hpolicy htests => ?_⟩
  exact (Session.interchangeable_settled h.sound hpolicy htests (hcache.reading_congr hcache')
    settings' now).decide_eq trace

/-- A fresh session with an unreadable record and an event with a null in its data, after idling for
    less than nothing: its idle seconds are the integer zero.  It is reloaded under settings for
    other sessions. -/
theorem saving_loses_nothing_null :
    let event : Data Number := .object [("type", .text "seen"), ("ts", .number (.int 5)),
      ("data", .object [("a", .list [.null])])]
    let init : Data Number := .object [("sticky", .object [("s", .null)]), ("trace", .list [event])]
    let english : Settings Number := { Settings.default with language := .en }
    let slot : Slot Number := ⟨"s", [{ id := "v" }], none⟩
    let judge : Judge GuardCache Number := GuardCache.judge ⟨970, 970⟩
    ∃ s₀ s s', Session.create Settings.default init = .ok s₀ ∧
      s = s₀.update (.idle (.float (-1.0))) ∧ s.Reachable ∧ s.metrics.idleSec = .int 0 ∧
      Session.create english s.toData = .ok s' ∧ s'.WrittenAlike s ∧
      s'.sticky = [("s", .raw .null)] ∧ s'.trace.map (·.data) = [some [("a", .list [.null])]] ∧
      (decide .default judge slot s' {} false (.int 0) {}).1
        = (decide .default judge slot s {} false (.int 0) {}).1 := by
  intro event init english slot judge
  obtain ⟨s₀, hcreate, hsticky, htrace, hidle⟩ : ∃ s₀ : Session Number,
      Session.create Settings.default init = .ok s₀ ∧ s₀.sticky = [("s", .raw .null)] ∧
      s₀.trace.map (·.data) = [some [("a", .list [.null])]] ∧ s₀.metrics.idleSec = .int 0 :=
    ⟨_, rfl, rfl, rfl, rfl⟩
  have hreachable : (s₀.update (.idle (.float (-1.0)))).Reachable :=
    (Session.Reachable.create hcreate).update ⟨_, rfl⟩
  obtain ⟨s', hreload, hwritten, hsticky', htrace', hdecide⟩ :=
    saving_loses_nothing hreachable english
  refine ⟨s₀, _, s', hcreate, rfl, hreachable, ?_, hreload, hwritten, hsticky'.trans hsticky,
    ?_, ?_⟩
  · show Scalar.maxFirst (.int 0) (s₀.metrics.idleSec + .float (-1.0)) = .int 0
    rw [hidle]
    decide +kernel
  · rw [htrace']
    exact htrace
  · refine hdecide _ _ _ _ _ _ _ _ .start .start (fun _ _ _ => rfl) fun v hv run hrun => ?_
    cases List.mem_singleton.mp hv
    exact nomatch hrun

end LessonVariants
