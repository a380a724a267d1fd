import LessonVariants.Proofs.Outcome
import LessonVariants.Proofs.Selection.Routes
import LessonVariants.Proofs.Session.Changes
import LessonVariants.Proofs.Wire.Yields
import LessonVariants.Session.Create

/-! # What all sessions have in common

    A session that comes from opening one and from the engine's operations on it holds doubles where
    it holds real numbers, has each key once, and remembers of unreadable data only that it was
    unreadable (`Session.Sound`).  Two counters are the exception: idle seconds and the time of a
    skill start from the integer zero.

    Opening establishes this (`Session.create_sound`) and every operation keeps it, so it holds of
    all sessions that can be come to (`Session.Reachable.sound`). -/

namespace LessonVariants

/-! ## Real numbers -/

/-- Whether a number is a double. -/
def Number.IsReal (n : Number) : Prop :=
  ∃ x, n = .float x

/-- Whether a number is a double or the integer zero, from which counters start. -/
def Number.IsCount (n : Number) : Prop :=
  n = .int 0 ∨ n.IsReal

/-- Whether a number, if there is one, is a double. -/
def AllReal (o : Option Number) : Prop :=
  ∀ n, o = some n → n.IsReal

theorem allReal_none : AllReal none :=
  fun _ h => nomatch h

theorem Number.isReal_ofDecimal (d : Decimal) : IsReal (Scalar.ofDecimal d) :=
  ⟨d.toFloat, rfl⟩

/-- A blend with a double is a double. -/
theorem blend_isReal {alpha : Number} (h : alpha.IsReal) (previous observed : Number) :
    (blend alpha previous observed).IsReal := by
  obtain ⟨x, rfl⟩ := h
  cases previous <;> cases observed <;> exact ⟨_, rfl⟩

theorem Number.IsReal.add {n : Number} (h : n.IsReal) (m : Number) : (m + n).IsReal := by
  obtain ⟨x, rfl⟩ := h
  cases m <;> exact ⟨_, rfl⟩

theorem isReal_of_toReal? {n x : Number} (h : WireScalar.toReal? n = some x) : x.IsReal := by
  unfold WireScalar.toReal? instWireScalarNumber at h
  dsimp only at h
  split at h
  · cases h
    exact ⟨_, rfl⟩
  · exact nomatch h

/-- A real number is read as a double. -/
theorem Read.real_yields (d : Data Number) : (real d).Yields Number.IsReal := by
  unfold real
  split
  · split
    · next hx => exact .ok (isReal_of_toReal? hx)
    · exact .fault _
  · exact .ok (Number.isReal_ofDecimal _)
  · split
    · next s x hx =>
        obtain ⟨y, -, rfl⟩ := Option.map_eq_some_iff.mp hx
        exact .ok ⟨y, rfl⟩
    · exact .fault _
  · exact .fault _

/-! ## Sound records -/

/-- Needs with a real scale of the font. -/
def Accessibility.Sound (a : Accessibility Number) : Prop :=
  AllReal a.fontScale

/-- A preference with a real confidence. -/
def Preference.Sound (p : Preference Number) : Prop :=
  AllReal p.confidence

/-- Preferences that are sound. -/
structure Preferences.Sound (p : Preferences Number) : Prop where
  theme        : ∀ q, p.theme = some q → q.Sound
  tone         : ∀ q, p.tone = some q → q.Sound
  modalityBias : ∀ q, p.modalityBias = some q → q.Sound

/-- A learner with sound needs and preferences. -/
structure User.Sound (u : User Number) : Prop where
  accessibility : u.accessibility.Sound
  preferences   : u.preferences.Sound

/-- Real estimates of the mood. -/
structure Affect.Sound (a : Affect Number) : Prop where
  frustration : AllReal a.frustration
  confidence  : AllReal a.confidence
  engagement  : AllReal a.engagement

/-- Real metrics, with a count of idle seconds. -/
structure Metrics.Sound (m : Metrics Number) : Prop where
  accuracy : m.accuracy.IsReal
  latency  : m.latency.IsReal
  idleSec  : m.idleSec.IsCount
  fatigue  : m.fatigue.IsReal
  affect   : ∀ a, m.affect = some a → a.Sound

/-- Real stats of a skill, with the time of a skill counted from zero. -/
structure SkillStats.Sound (s : SkillStats Number) : Prop where
  accuracy      : s.accuracy.IsReal
  lastTs        : s.lastTs.IsCount
  difficultyGap : AllReal s.difficultyGap

/-- A sticky record with real times. -/
structure StickyRecord.Sound (r : StickyRecord Number) : Prop where
  time  : r.time.IsReal
  ttlMs : AllReal r.ttlMs

/-- A sound record, or the null that is kept in place of an unreadable one. -/
def StickyEntry.Sound : StickyEntry Number → Prop
  | record r => r.Sound
  | raw d    => d = .null

/-- Overrides that force one variant a slot, until a real time. -/
structure Overrides.Sound (o : Overrides Number) : Prop where
  forceVariant : o.forceVariant.keys.Nodup
  expiresAt    : AllReal o.expiresAt

/-- An event at a real time. -/
def TraceEvent.Sound (e : TraceEvent Number) : Prop :=
  e.ts.IsReal

/-- A session of sound records, with each key once. -/
structure Session.Sound (s : Session Number) : Prop where
  user         : s.user.Sound
  metrics      : s.metrics.Sound
  perSkill     : s.perSkill.Each SkillStats.Sound
  sticky       : s.sticky.Each StickyEntry.Sound
  overrides    : ∀ o, s.overrides = some o → o.Sound
  seenVariants : s.seenVariants.Each fun _ => True
  trace        : ∀ e ∈ s.trace, e.Sound

/-! ## Reading gives sound records -/

theorem Metrics.initial_sound : (initial : Metrics Number).Sound :=
  ⟨Number.isReal_ofDecimal _, Number.isReal_ofDecimal _, Or.inl rfl, Number.isReal_ofDecimal _,
    fun _ h => nomatch h⟩

theorem SkillStats.initial_sound : (initial : SkillStats Number).Sound :=
  ⟨Number.isReal_ofDecimal _, Or.inl rfl, allReal_none⟩

theorem User.empty_sound : User.Sound {} :=
  ⟨allReal_none, (fun _ h => nomatch h), (fun _ h => nomatch h), fun _ h => nomatch h⟩

open Read Checked

section Reading

variable (m : Keyed (Data Number))

-- A record is read field by field, so each chain below has a link per field, in the order of the
-- reader; `.any` passes over a field of which nothing is asked.

theorem Accessibility.read_yields : (read m).Yields Sound := by
  refine .seq (.seq (.seq (.seq (.map (.any _) ?_) (.any _)) (.any _))
    (optional_yields real_yields m _)) (.any _)
  exact fun _ _ _ _ _ _ _ h _ _ => h

theorem Preference.read_yields : (read m).Yields Sound := by
  refine .seq (.seq (.map (.any _) ?_) (.any _)) (optional_yields real_yields m _)
  exact fun _ _ _ _ _ h => h

theorem Preferences.read_yields : (read m).Yields Sound := by
  have hread := record_yields Preference.read_yields
  refine .seq (.seq (.map (optional_yields hread m _) ?_) (optional_yields hread m _))
    (optional_yields hread m _)
  exact fun _ h₁ _ h₂ _ h₃ => ⟨h₁, h₂, h₃⟩

theorem User.read_yields : (read m).Yields Sound := by
  have haccessibility := field_yields User.empty_sound.accessibility
    (record_yields Accessibility.read_yields) m
  have hpreferences := field_yields User.empty_sound.preferences
    (record_yields Preferences.read_yields) m
  refine .seq (.seq (.seq (.seq (.seq (.seq (.map (.any _) ?_)
    (.any _)) (.any _)) (.any _)) (.any _)) (haccessibility _)) (hpreferences _)
  exact fun _ _ _ _ _ _ _ _ _ _ _ h₁ _ h₂ => ⟨h₁, h₂⟩

theorem Affect.read_yields : (read m).Yields Sound := by
  refine .seq (.seq (.map (optional_yields real_yields m _) ?_) (optional_yields real_yields m _))
    (optional_yields real_yields m _)
  exact fun _ h₁ _ h₂ _ h₃ => ⟨h₁, h₂, h₃⟩

theorem Read.count_yields (d : Data Number) : (real d).Yields Number.IsCount :=
  (real_yields d).imp fun _ h => Or.inr h

theorem Metrics.read_yields : (read m).Yields Sound := by
  have hinitial := Metrics.initial_sound
  have haccuracy := field_yields hinitial.accuracy real_yields m
  have hlatency := field_yields hinitial.latency real_yields m
  have hidle := field_yields hinitial.idleSec count_yields m
  have hfatigue := field_yields hinitial.fatigue real_yields m
  have haffect := optional_yields (record_yields Affect.read_yields) m
  refine .seq (.seq (.seq (.seq (.seq (.seq (.map (haccuracy _) ?_)
    (hlatency _)) (hidle _)) (.any _)) (hfatigue _)) (haffect _)) (.any _)
  exact fun _ h₁ _ h₂ _ h₃ _ _ _ h₄ _ h₅ _ _ => ⟨h₁, h₂, h₃, h₄, h₅⟩

theorem SkillStats.read_yields : (read m).Yields Sound := by
  have haccuracy := field_yields SkillStats.initial_sound.accuracy real_yields m
  have hlast := field_yields SkillStats.initial_sound.lastTs count_yields m
  have hgap := optional_yields real_yields m
  refine .seq (.seq (.seq (.map (haccuracy _) ?_) (.any _)) (hlast _)) (hgap _)
  exact fun _ h₁ _ _ _ h₂ _ h₃ => ⟨h₁, h₂, h₃⟩

theorem StickyRecord.read_yields : (read m).Yields Sound := by
  have htime := required_yields real_yields m
  have httl := optional_yields real_yields m
  refine .seq (.seq (.seq (.seq (.seq (.map (.any _) ?_)
    (htime _)) (.any _)) (httl _)) (.any _)) (.any _)
  exact fun _ _ _ h₁ _ _ _ h₂ _ _ _ _ => ⟨h₁, h₂⟩

theorem StickyEntry.ofData_sound (d : Data Number) : (ofData d).Sound := by
  have hread := record_yields StickyRecord.read_yields d
  unfold ofData
  cases h : Read.record StickyRecord.read d with
  | ok r => exact hread r h
  | faulty is => exact rfl

theorem StickyEntry.readAll_sound (d : Data Number) : (readAll d).Each Sound := by
  cases d with
  | object m =>
      refine Keyed.Each.ofEntries fun e he => ?_
      obtain ⟨e, -, rfl⟩ := List.mem_map.mp he
      exact ofData_sound e.2
  | _ => exact .nil

theorem Overrides.read_yields : (read m).Yields Sound := by
  have hforced := field_yields (P := Keyed.Each fun _ => True) .nil
    (keyed_yields fun d => .any (text d)) m
  have hexpires := optional_yields real_yields m
  refine .seq (.seq (.seq (.seq (.seq (.seq (.map (hforced _) ?_)
    (.any _)) (.any _)) (.any _)) (.any _)) (.any _)) (hexpires _)
  exact fun _ h₁ _ _ _ _ _ _ _ _ _ _ _ h₂ => ⟨h₁.nodup, h₂⟩

theorem TraceEvent.read_yields : (read m).Yields Sound := by
  refine .seq (.seq (.map (.any _) ?_) (required_yields real_yields m _)) (.any _)
  exact fun _ _ _ h _ _ => h

theorem Session.read_yields : (read m).Yields Sound := by
  have huser := field_yields User.empty_sound (record_yields User.read_yields) m
  have hmetrics := field_yields Metrics.initial_sound (record_yields Metrics.read_yields) m
  have hskills := field_yields .nil (keyed_yields (record_yields SkillStats.read_yields)) m
  have hsticky := field_yields .nil (fun d => .ok (StickyEntry.readAll_sound d)) m
  have hoverrides := optional_yields (record_yields Overrides.read_yields) m
  have hseen := field_yields (P := Keyed.Each fun _ => True) .nil
    (keyed_yields fun d => .any (list text d)) m
  have htrace := field_yields (List.forall_mem_nil _)
    (list_yields (record_yields TraceEvent.read_yields)) m
  refine .seq (.seq (.seq (.seq (.seq (.seq (.seq (.seq (.seq (.map (.any _) ?_)
    (huser _)) (.any _)) (hmetrics _)) (hskills _)) (hsticky _)) (hoverrides _)) (hseen _))
    (.any _)) (htrace _)
  exact fun _ _ _ h₁ _ _ _ h₂ _ h₃ _ h₄ _ h₅ _ h₆ _ _ _ h₇ => ⟨h₁, h₂, h₃, h₄, h₅, h₆, h₇⟩

end Reading

/-- **Opening gives a sound session.** -/
theorem Session.create_sound {settings : Settings Number} {init : Data Number} {s : Session Number}
    (h : create settings init = .ok s) : s.Sound := by
  obtain ⟨data, -, h⟩ := bind_eq_ok.mp h
  obtain ⟨user, -, h⟩ := bind_eq_ok.mp h
  obtain ⟨env, -, h⟩ := bind_eq_ok.mp h
  split at h
  · next hread =>
      cases h
      exact read_yields _ _ hread
  · exact nomatch h

/-! ## Operations keep sessions sound -/

/-- Whether the numbers of an update are doubles.  Bounds of latencies and an observed one need not
    be, for they are blended. -/
def Update.IsReal : Update Number → Prop
  | .answer alpha _              => alpha.IsReal
  | .latency alpha _ _           => alpha.IsReal
  | .idle delta                  => delta.IsReal
  | .theme p                     => p.Sound
  | .skillAnswer _ alpha _ now   => alpha.IsReal ∧ now.IsReal
  | .seen _ _                    => True
  | .event e                     => e.Sound

namespace Session.Sound

variable {s : Session Number}

/-- The stats of a skill are sound, also those of one that was never tried. -/
theorem skill (h : s.Sound) (id : String) : (s.skill id).Sound := by
  unfold Session.skill
  cases hget : s.perSkill.get? id with
  | none => exact SkillStats.initial_sound
  | some stats => exact h.perSkill.get? hget

theorem update (h : s.Sound) {u : Update Number} (hu : u.IsReal) : (s.update u).Sound := by
  cases u with
  | answer alpha correct =>
      have hmetrics := h.metrics
      exact { h with metrics := { hmetrics with accuracy := blend_isReal hu _ _ } }
  | latency alpha clip observed =>
      have hmetrics := h.metrics
      exact { h with metrics := { hmetrics with latency := blend_isReal hu _ _ } }
  | idle delta =>
      have hmetrics := h.metrics
      refine { h with metrics := { hmetrics with idleSec := ?_ } }
      show Number.IsCount (if _ then _ else _)
      split
      · exact Or.inr (Number.IsReal.add hu _)
      · exact Or.inl rfl
  | theme p =>
      have huser := h.user
      have hpreferences := huser.preferences
      refine { h with user := { huser with preferences := { hpreferences with theme := ?_ } } }
      intro q hq
      cases hq
      exact hu
  | skillAnswer id alpha correct now =>
      have hskill := h.skill id
      refine { h with perSkill := h.perSkill.insert ?_ }
      exact { hskill with accuracy := blend_isReal hu.1 _ _, lastTs := Or.inr hu.2 }
  | seen slotId variantId => exact { h with seenVariants := h.seenVariants.insert trivial }
  | event e =>
      refine { h with trace := fun e' he' => ?_ }
      rcases List.mem_append.mp he' with he | he
      · exact h.trace e' he
      · rw [List.mem_singleton.mp he]
        exact hu

theorem putSticky (h : s.Sound) (slotId : String) {r : StickyRecord Number} (hr : r.Sound) :
    (s.putSticky slotId (.record r)).Sound :=
  { h with sticky := h.sticky.insert hr }

theorem endScope (h : s.Sound) (scope : Scope) : (s.endScope scope).Sound :=
  { h with sticky := h.sticky.keep fun _ e => !e.hasScope scope }

/-- A committed choice is remembered with a real time. -/
theorem commit (h : s.Sound) {i : StickyIntent} {now : Number} {s' : Session Number}
    (hcommit : s.commit i now = .ok s') : s'.Sound := by
  obtain ⟨r, hrecord, rfl⟩ := commit_eq_ok.mp hcommit
  obtain ⟨t, htime, rfl⟩ := record_eq_ok.mp hrecord
  exact h.putSticky i.slotId ⟨isReal_of_toReal? htime, allReal_none⟩

end Session.Sound

/-- The sessions that can be come to: by opening one, and by the operations of the engine, whose
    numbers are doubles. -/
inductive Session.Reachable : Session Number → Prop where
  | create {settings : Settings Number} {init : Data Number} {s : Session Number} :
      Session.create settings init = .ok s → Reachable s
  | update {s : Session Number} {u : Update Number} :
      Reachable s → u.IsReal → Reachable (s.update u)
  | putSticky {s : Session Number} {slotId : String} {r : StickyRecord Number} :
      Reachable s → r.Sound → Reachable (s.putSticky slotId (.record r))
  | endScope {s : Session Number} {scope : Scope} :
      Reachable s → Reachable (s.endScope scope)
  | select {σ : Type} {s s' : Session Number} {settings : Settings Number} {judge : Judge σ Number}
      {slot : Slot Number} {policy : Policy Number} {trace : Bool} {now : Number} {st st' : σ}
      {result : SelectionResult Number} :
      Reachable s →
      select settings judge slot s policy trace now st = (.ok (result, s'), st') → Reachable s'

/-- **All sessions that can be come to are sound.** -/
theorem Session.Reachable.sound {s : Session Number} (h : s.Reachable) : s.Sound := by
  induction h with
  | create h => exact create_sound h
  | update _ hu ih => exact ih.update hu
  | putSticky _ hr ih => exact ih.putSticky _ hr
  | endScope _ ih => exact ih.endScope _
  | select _ hselect ih =>
      obtain ⟨d, -, -, ⟨-, rfl⟩ | ⟨i, -, hcommit⟩⟩ := select_eq_ok.mp hselect
      · exact ih
      · exact ih.commit hcommit

end LessonVariants
