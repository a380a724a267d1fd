import LessonVariants.Proofs.Session.Changes

/-! # The aspects of a session

    Every call that a caller makes on a session concerns one aspect of it: the accuracy with the
    streak and the number of answers, the latency, the idle time, the theme, one skill, the history
    of one slot, the trace, or the remembered choice of one slot.  A step is separated
    (`Separated`) if it reads and writes no aspect but that of its call.  Then an aspect of the
    final session depends on the calls that concern it and on nothing else
    (`Separated.content_eq_filter`), so runs with the same calls for each aspect come to the same
    session, up to the order of the entries in maps (`Separated.sameUpToOrder`). -/

namespace LessonVariants

/-- The aspects of a session that calls change one at a time. -/
inductive Aspect where
  | accuracy
  | latency
  | idle
  | theme
  | skill (id : String)
  | history (slotId : String)
  | trace
  | sticky (slotId : String)
  deriving DecidableEq

variable {ρ : Type}

/-- What an aspect holds. -/
def Aspect.Content (ρ : Type) : Aspect → Type
  | accuracy  => ρ × Int × Int
  | latency   => ρ
  | idle      => ρ
  | theme     => Option (Preference ρ)
  | skill _   => Option (SkillStats ρ)
  | history _ => Option (List String)
  | trace     => List (TraceEvent ρ)
  | sticky _  => Option (StickyEntry ρ)

/-- What a session holds in an aspect. -/
def Session.content (s : Session ρ) : (p : Aspect) → p.Content ρ
  | .accuracy       => (s.metrics.accuracy, s.metrics.streak, s.metrics.attempts)
  | .latency        => s.metrics.latency
  | .idle           => s.metrics.idleSec
  | .theme          => s.user.preferences.theme
  | .skill id       => s.perSkill.get? id
  | .history slotId => s.seenVariants.get? slotId
  | .trace          => s.trace
  | .sticky slotId  => s.sticky.get? slotId

/-- What a caller does to a session: it reports what the learner does, or sets a record. -/
inductive Call (ρ : Type) where
  | update (u : Update ρ)
  | setSticky (slotId : String) (r : StickyRecord ρ)

/-- The aspect that an update concerns. -/
def Update.aspect : Update ρ → Aspect
  | .answer _ _            => .accuracy
  | .latency _ _ _         => .latency
  | .idle _                => .idle
  | .theme _               => .theme
  | .skillAnswer id _ _ _  => .skill id
  | .seen slotId _         => .history slotId
  | .event _               => .trace

/-- The aspect that a call concerns. -/
def Call.aspect : Call ρ → Aspect
  | .update u           => u.aspect
  | .setSticky slotId _ => .sticky slotId

/-- The variant that a call shows in a slot. -/
def Call.shown? (slotId : String) : Call ρ → Option String
  | .update (.seen slotId' variantId) => if slotId' = slotId then some variantId else none
  | _                                 => none

/-! ## Sessions that agree -/

/-- A learner with another preference for a theme, or with none. -/
def User.withTheme (u : User ρ) (theme : Option (Preference ρ)) : User ρ :=
  { u with preferences := { u.preferences with theme := theme } }

/-- Sessions that agree in all that is no aspect. -/
structure Session.SameElsewhere (s t : Session ρ) : Prop where
  ids       : t.ids = s.ids
  user      : t.user.withTheme none = s.user.withTheme none
  env       : t.env = s.env
  fatigue   : t.metrics.fatigue = s.metrics.fatigue
  affect    : t.metrics.affect = s.metrics.affect
  overrides : t.overrides = s.overrides
  policy    : t.policy = s.policy

/-- Sessions that are equal, but for the order of the entries in their maps. -/
structure Session.SameUpToOrder (s t : Session ρ) : Prop where
  ids          : t.ids = s.ids
  user         : t.user = s.user
  env          : t.env = s.env
  metrics      : t.metrics = s.metrics
  perSkill     : ∀ id, t.perSkill.get? id = s.perSkill.get? id
  sticky       : ∀ slotId, t.sticky.get? slotId = s.sticky.get? slotId
  overrides    : t.overrides = s.overrides
  seenVariants : ∀ slotId, t.seenVariants.get? slotId = s.seenVariants.get? slotId
  policy       : t.policy = s.policy
  trace        : t.trace = s.trace

namespace Session

theorem SameElsewhere.refl (s : Session ρ) : s.SameElsewhere s :=
  ⟨rfl, rfl, rfl, rfl, rfl, rfl, rfl⟩

theorem SameElsewhere.symm {s t : Session ρ} (h : s.SameElsewhere t) : t.SameElsewhere s :=
  ⟨h.ids.symm, h.user.symm, h.env.symm, h.fatigue.symm, h.affect.symm, h.overrides.symm,
    h.policy.symm⟩

theorem SameElsewhere.trans {s t u : Session ρ} (h : s.SameElsewhere t) (h' : t.SameElsewhere u) :
    s.SameElsewhere u :=
  ⟨h'.ids.trans h.ids, h'.user.trans h.user, h'.env.trans h.env, h'.fatigue.trans h.fatigue,
    h'.affect.trans h.affect, h'.overrides.trans h.overrides, h'.policy.trans h.policy⟩

/-- The aspects and what is no aspect make up a session, the order of entries in maps apart. -/
theorem SameElsewhere.sameUpToOrder {s t : Session ρ} (h : s.SameElsewhere t)
    (haspects : ∀ p, t.content p = s.content p) : s.SameUpToOrder t where
  ids := h.ids
  user := by
    have htheme : t.user.preferences.theme = s.user.preferences.theme := haspects .theme
    calc
      t.user = (t.user.withTheme none).withTheme t.user.preferences.theme := rfl
      _ = (s.user.withTheme none).withTheme s.user.preferences.theme := by rw [h.user, htheme]
      _ = s.user := rfl
  env := h.env
  metrics := by
    have hanswers : ((t.metrics.accuracy, t.metrics.streak, t.metrics.attempts) : ρ × Int × Int)
        = (s.metrics.accuracy, s.metrics.streak, s.metrics.attempts) := haspects .accuracy
    have hlatency : t.metrics.latency = s.metrics.latency := haspects .latency
    have hidle : t.metrics.idleSec = s.metrics.idleSec := haspects .idle
    simp only [Prod.mk.injEq] at hanswers
    obtain ⟨haccuracy, hstreak, hattempts⟩ := hanswers
    calc
      t.metrics = ⟨t.metrics.accuracy, t.metrics.latency, t.metrics.idleSec, t.metrics.streak,
          t.metrics.fatigue, t.metrics.affect, t.metrics.attempts⟩ := rfl
      _ = s.metrics := by rw [haccuracy, hlatency, hidle, hstreak, h.fatigue, h.affect, hattempts]
  perSkill id := haspects (.skill id)
  sticky slotId := haspects (.sticky slotId)
  overrides := h.overrides
  seenVariants slotId := haspects (.history slotId)
  policy := h.policy
  trace := haspects .trace

end Session

/-! ## Separated steps -/

/-- A step that reads and writes no aspect but that of its call. -/
structure Separated (step : Session ρ → Call ρ → Session ρ) : Prop where
  own       : ∀ {s t : Session ρ} (c : Call ρ), s.content c.aspect = t.content c.aspect →
    (step s c).content c.aspect = (step t c).content c.aspect
  other     : ∀ (s : Session ρ) (c : Call ρ) {p : Aspect}, c.aspect ≠ p →
    (step s c).content p = s.content p
  elsewhere : ∀ (s : Session ρ) (c : Call ρ), s.SameElsewhere (step s c)

namespace Separated

variable {step : Session ρ → Call ρ → Session ρ} (h : Separated step)
include h

/-- What a run makes of an aspect depends on what the aspect held before. -/
theorem content_congr {p : Aspect} {s t : Session ρ} (hp : s.content p = t.content p)
    (calls : List (Call ρ)) :
    (calls.foldl step s).content p = (calls.foldl step t).content p := by
  induction calls generalizing s t with
  | nil => exact hp
  | cons c calls ih =>
      rw [List.foldl_cons, List.foldl_cons]
      refine ih ?_
      by_cases hc : c.aspect = p
      · subst hc
        exact h.own c hp
      · rw [h.other s c hc, h.other t c hc, hp]

/-- **An aspect sees its own calls only.** -/
theorem content_eq_filter (p : Aspect) (s : Session ρ) (calls : List (Call ρ)) :
    (calls.foldl step s).content p
      = ((calls.filter (·.aspect = p)).foldl step s).content p := by
  induction calls generalizing s with
  | nil => rfl
  | cons c calls ih =>
      by_cases hc : c.aspect = p
      · rw [List.filter_cons, if_pos (decide_eq_true hc), List.foldl_cons, List.foldl_cons]
        exact ih (step s c)
      · rw [List.filter_cons, if_neg (by simpa using hc), List.foldl_cons, ← ih s]
        exact h.content_congr (h.other s c hc) calls

/-- Calls with the items of a list, among any others, make of their aspect what they make of it alone. -/
theorem content_map {α : Type} {p : Aspect} {calls : List (Call ρ)} {xs : List α} {call : α → Call ρ}
    (hcalls : calls.filter (·.aspect = p) = xs.map call) (s : Session ρ) :
    (calls.foldl step s).content p = (xs.foldl (fun s x => step s (call x)) s).content p := by
  rw [h.content_eq_filter, hcalls, List.foldl_map]

/-- An aspect that no call concerns is unchanged. -/
theorem content_unconcerned {p : Aspect} {calls : List (Call ρ)} (hp : ∀ c ∈ calls, c.aspect ≠ p)
    (s : Session ρ) : (calls.foldl step s).content p = s.content p := by
  have hnone : calls.filter (·.aspect = p) = [] :=
    List.filter_eq_nil_iff.mpr fun c hc => by simpa using hp c hc
  rw [h.content_eq_filter, hnone, List.foldl_nil]

/-- What is no aspect is unchanged. -/
theorem sameElsewhere (s : Session ρ) (calls : List (Call ρ)) :
    s.SameElsewhere (calls.foldl step s) := by
  induction calls generalizing s with
  | nil => exact .refl s
  | cons c calls ih => exact (h.elsewhere s c).trans (ih (step s c))

/-- **Runs with the same calls for each aspect come to the same session**, up to the order of the
    entries in maps. -/
theorem sameUpToOrder (s : Session ρ) {calls calls' : List (Call ρ)}
    (hcalls : ∀ p, calls.filter (·.aspect = p) = calls'.filter (·.aspect = p)) :
    (calls.foldl step s).SameUpToOrder (calls'.foldl step s) := by
  have helsewhere := (h.sameElsewhere s calls).symm.trans (h.sameElsewhere s calls')
  refine helsewhere.sameUpToOrder fun p => ?_
  rw [h.content_eq_filter p s calls', ← hcalls p, ← h.content_eq_filter p s calls]

end Separated

end LessonVariants
