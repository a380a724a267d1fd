import LessonVariants.Proofs.Selection.FailClosed

/-! # Sessions that decisions do not tell apart

    A decision on a slot reads of a session the policy's verdict, the overrides, the slot's record,
    and of each variant whether its labels suit, its score and its guard's answer.  Two sessions
    that agree there (`Interchangeable`) get the same decision (`Interchangeable.decide_eq`).  The guard
    cache has a part in it by what it reads in the guards, and by nothing else. -/

namespace LessonVariants

variable {ρ : Type} [WireScalar ρ]

/-! ## The cache of a decision -/

/-- Deciding changes nothing in what the cache reads. -/
theorem GuardCache.decide_reading (cache : GuardCache) (room : Room) (settings : Settings ρ)
    (slot : Slot ρ) (session : Session ρ) (policy : Policy ρ) (trace : Bool) (now : ρ) :
    (decide settings (GuardCache.judge room) slot session policy trace now cache).2.reading
      room.parsing = cache.reading room.parsing := by
  rw [decide_eq]
  cases route settings slot session policy now with
  | ranked first =>
      have hjudged :=
        cache.judgeAll_reading room session slot.id (slot.variants.filter (·.suits session))
      dsimp only
      unfold rankedDecision
      split
      · next hall =>
          rw [hall] at hjudged
          exact hjudged
      · next hall =>
          rw [hall] at hjudged
          exact hjudged
  | _ => rfl

/-! ## Interchangeable sessions -/

/-- Two sessions that agree, for caches that go with them, in all that a decision on a slot at a time
    reads. -/
structure Interchangeable (room : Room) (settings : Settings ρ) (slot : Slot ρ) (policy : Policy ρ)
    (now : ρ) (s s' : Session ρ) (cache cache' : GuardCache) : Prop where
  verdict  : policy.verdict slot s' = policy.verdict slot s
  override : s'.override? settings slot.id now = s.override? settings slot.id now
  record   : s'.stickyRecord? slot.id = s.stickyRecord? slot.id
  suits    : ∀ v : Variant ρ, v.suits s' = v.suits s
  score    : ∀ v : Variant ρ, v.score s' = v.score s
  guard    : ∀ v ∈ slot.variants,
    cache'.answer room v.guard ⟨s', slot.id, v⟩ = cache.answer room v.guard ⟨s, slot.id, v⟩

variable {room : Room} {settings : Settings ρ} {slot : Slot ρ} {policy : Policy ρ} {now : ρ}
  {s s' : Session ρ} {cache cache' : GuardCache}

theorem Interchangeable.route_eq
    (h : Interchangeable room settings slot policy now s s' cache cache') :
    route settings slot s' policy now = route settings slot s policy now := by
  unfold route
  rw [h.verdict, h.override, h.record]

/-- A ranking reads of a session which variants it suits, their answers and their scores. -/
theorem Interchangeable.rankedDecision_eq
    (h : Interchangeable room settings slot policy now s s' cache cache') (first : Variant ρ)
    (why : Rationale ρ) (trace : Bool) :
    (rankedDecision settings (GuardCache.judge room) slot first s' why trace cache').1
      = (rankedDecision settings (GuardCache.judge room) slot first s why trace cache).1 := by
  have hsuits : slot.variants.filter (·.suits s') = slot.variants.filter (·.suits s) :=
    List.filter_congr fun v _ => h.suits v
  have hverdicts : verdicts cache' room s' slot.id (slot.variants.filter (·.suits s))
      = verdicts cache room s slot.id (slot.variants.filter (·.suits s)) :=
    verdicts_congr fun v hv => h.guard v (List.mem_filter.mp hv).1
  -- both caches judge alike, for each gives its own answers
  have hjudged := cache.judgeAll_eq room s slot.id (slot.variants.filter (·.suits s))
  have hjudged' := cache'.judgeAll_eq room s' slot.id (slot.variants.filter (·.suits s))
  rw [hverdicts, ← hjudged] at hjudged'
  have hscore : (fun v : Variant ρ => (v, v.score s')) = fun v => (v, v.score s) :=
    funext fun v => congrArg (v, ·) (h.score v)
  unfold rankedDecision
  rw [hsuits]
  revert hjudged'
  generalize judgeAll (GuardCache.judge room) s' slot.id (slot.variants.filter (·.suits s)) cache' = x
  generalize judgeAll (GuardCache.judge room) s slot.id (slot.variants.filter (·.suits s)) cache = y
  intro hxy
  obtain ⟨x, cache₁⟩ := x
  obtain ⟨y, cache₂⟩ := y
  dsimp only at hxy
  subst hxy
  cases x with
  | error f => rfl
  | ok vs =>
      dsimp only
      unfold Decision.ofVerdicts
      rw [hscore]

/-- **Interchangeable sessions get the same decision.** -/
theorem Interchangeable.decide_eq
    (h : Interchangeable room settings slot policy now s s' cache cache') (trace : Bool) :
    (decide settings (GuardCache.judge room) slot s' policy trace now cache').1
      = (decide settings (GuardCache.judge room) slot s policy trace now cache).1 := by
  rw [LessonVariants.decide_eq, LessonVariants.decide_eq, h.route_eq]
  cases route settings slot s policy now with
  | ranked first => exact h.rankedDecision_eq first _ trace
  | _ => rfl

/-- A session is interchangeable with itself for caches that read the same in the slot's guards. -/
theorem Interchangeable.of_reading
    (h : ∀ v ∈ slot.variants, ∀ source, v.guard = some (.text source) →
      cache'.reading room.parsing source = cache.reading room.parsing source)
    (settings : Settings ρ) (policy : Policy ρ) (now : ρ) (session : Session ρ) :
    Interchangeable room settings slot policy now session session cache cache' where
  verdict   := rfl
  override  := rfl
  record    := rfl
  suits _   := rfl
  score _   := rfl
  guard v hv := GuardCache.answer_congr (h v hv) _

end LessonVariants
