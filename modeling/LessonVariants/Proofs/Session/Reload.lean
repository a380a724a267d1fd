import LessonVariants.Proofs.Session.Opening
import LessonVariants.Proofs.Session.Soundness
import LessonVariants.Proofs.Wire.Restores

/-! # Saving and reloading sessions

    A sound session is written and read back whole (`Session.create_toData`), whatever the settings:
    each reader restores what its view shows, and nothing that the settings prescribe for new
    sessions is missing from a written one.

    Only the two counters change: they start from the integer zero, and come back as the double
    (`Session.settled`). -/

namespace LessonVariants

/-! ## What comes back -/

/-- A number as the double that stands for it. -/
def Number.asReal (n : Number) : Number :=
  .float n.toFloat

/-- Metrics as they are read back. -/
def Metrics.settled (m : Metrics Number) : Metrics Number :=
  { m with idleSec := m.idleSec.asReal }

/-- Stats of a skill as they are read back. -/
def SkillStats.settled (s : SkillStats Number) : SkillStats Number :=
  { s with lastTs := s.lastTs.asReal }

/-- A session as it is read back: the counters are doubles. -/
def Session.settled (s : Session Number) : Session Number :=
  { s with
    metrics  := s.metrics.settled
    perSkill := s.perSkill.map fun e => (e.1, e.2.settled) }

namespace Read

open Value

/-! ## Numbers -/

theorem restores_count {n : Number} (h : n.IsCount) : Restores real (.number n) n.asReal := by
  refine ⟨rfl, ?_⟩
  show real (.number n) = .ok n.asReal
  rcases h with rfl | ⟨x, rfl⟩
  · rfl
  · rfl

theorem restores_real {n : Number} (h : n.IsReal) : Restores real (.number n) n := by
  obtain ⟨x, rfl⟩ := h
  exact ⟨rfl, rfl⟩

theorem restores_reals {o : Option Number} (h : AllReal o) :
    ∀ n, o = some n → Restores real (.number n) n :=
  fun n hn => restores_real (h n hn)

/-! ## Records -/

theorem restores_ids (i : SessionIds) :
    Restores (ρ := Number) (record SessionIds.read) i.view i := by
  refine restores_record rfl fun hfs => ?_
  unfold SessionIds.read
  rw [field_toFields hfs (i := 0) rfl (restores_text _),
    field_toFields hfs (i := 1) rfl (restores_text _),
    optional_toFields hfs (i := 2) rfl fun s _ => restores_text s,
    field_toFields hfs (i := 3) rfl (restores_text _),
    field_toFields hfs (i := 4) rfl (restores_text _),
    optional_toFields hfs (i := 5) rfl fun s _ => restores_text s,
    optional_toFields hfs (i := 6) rfl fun s _ => restores_text s]
  rfl

theorem restores_accessibility {a : Accessibility Number} (h : a.Sound) :
    Restores (record Accessibility.read) a.view a := by
  refine restores_record rfl fun hfs => ?_
  unfold Accessibility.read
  rw [field_toFields hfs (i := 0) rfl (restores_flag _),
    field_toFields hfs (i := 1) rfl (restores_flag _),
    optional_toFields hfs (i := 2) rfl fun b _ => restores_flag b,
    optional_toFields hfs (i := 3) rfl (restores_reals h),
    optional_toFields hfs (i := 4) rfl fun b _ => restores_flag b]
  rfl

theorem restores_preference {p : Preference Number} (h : p.Sound) :
    Restores (record Preference.read) p.view p := by
  refine restores_record rfl fun hfs => ?_
  unfold Preference.read
  rw [required_toFields hfs (i := 0) rfl (restores_text _),
    field_toFields hfs (i := 1) rfl (restores_word _),
    optional_toFields hfs (i := 2) rfl (restores_reals h)]
  rfl

theorem restores_preferences {p : Preferences Number} (h : p.Sound) :
    Restores (record Preferences.read) p.view p := by
  refine restores_record rfl fun hfs => ?_
  unfold Preferences.read
  rw [optional_toFields hfs (i := 0) rfl fun q hq => restores_preference (h.theme q hq),
    optional_toFields hfs (i := 1) rfl fun q hq => restores_preference (h.tone q hq),
    optional_toFields hfs (i := 2) rfl fun q hq => restores_preference (h.modalityBias q hq)]
  rfl

theorem restores_user {u : User Number} (h : u.Sound) : Restores (record User.read) u.view u := by
  refine restores_record rfl fun hfs => ?_
  unfold User.read
  rw [optional_toFields hfs (i := 0) rfl fun s _ => restores_text s,
    optional_toFields hfs (i := 1) rfl fun s _ => restores_text s,
    optional_toFields hfs (i := 2) rfl fun s _ => restores_text s,
    optional_toFields hfs (i := 3) rfl fun w _ => restores_word w,
    field_toFields hfs (i := 4) rfl (restores_word _),
    field_toFields hfs (i := 5) rfl (restores_accessibility h.accessibility),
    field_toFields hfs (i := 6) rfl (restores_preferences h.preferences)]
  rfl

theorem restores_environment (e : Environment) :
    Restores (ρ := Number) (record Environment.read) e.view e := by
  refine restores_record rfl fun hfs => ?_
  unfold Environment.read
  rw [field_toFields hfs (i := 0) rfl (restores_word _),
    field_toFields hfs (i := 1) rfl (restores_flag _),
    optional_toFields hfs (i := 2) rfl fun w _ => restores_word w,
    optional_toFields hfs (i := 3) rfl fun s _ => restores_text s]
  rfl

theorem restores_affect {a : Affect Number} (h : a.Sound) :
    Restores (record Affect.read) a.view a := by
  refine restores_record rfl fun hfs => ?_
  unfold Affect.read
  rw [optional_toFields hfs (i := 0) rfl (restores_reals h.frustration),
    optional_toFields hfs (i := 1) rfl (restores_reals h.confidence),
    optional_toFields hfs (i := 2) rfl (restores_reals h.engagement)]
  rfl

theorem restores_metrics {m : Metrics Number} (h : m.Sound) :
    Restores (record Metrics.read) m.view m.settled := by
  refine restores_record rfl fun hfs => ?_
  unfold Metrics.read
  rw [field_toFields hfs (i := 0) rfl (restores_real h.accuracy),
    field_toFields hfs (i := 1) rfl (restores_real h.latency),
    field_toFields hfs (i := 2) rfl (restores_count h.idleSec),
    field_toFields hfs (i := 3) rfl (restores_integer _),
    field_toFields hfs (i := 4) rfl (restores_real h.fatigue),
    optional_toFields hfs (i := 5) rfl fun a ha => restores_affect (h.affect a ha),
    field_toFields hfs (i := 6) rfl (restores_integer _)]
  rfl

theorem restores_skillStats {s : SkillStats Number} (h : s.Sound) :
    Restores (record SkillStats.read) s.view s.settled := by
  refine restores_record rfl fun hfs => ?_
  unfold SkillStats.read
  rw [field_toFields hfs (i := 0) rfl (restores_real h.accuracy),
    field_toFields hfs (i := 1) rfl (restores_integer _),
    field_toFields hfs (i := 2) rfl (restores_count h.lastTs),
    optional_toFields hfs (i := 3) rfl (restores_reals h.difficultyGap)]
  rfl

theorem restores_stickyRecord {r : StickyRecord Number} (h : r.Sound) :
    Restores (record StickyRecord.read) r.view r := by
  refine restores_record rfl fun hfs => ?_
  unfold StickyRecord.read
  rw [required_toFields hfs (i := 0) rfl (restores_text _),
    required_toFields hfs (i := 1) rfl (restores_real h.time),
    field_toFields hfs (i := 2) rfl (restores_word _),
    optional_toFields hfs (i := 3) rfl (restores_reals h.ttlMs),
    field_toFields hfs (i := 4) rfl (restores_word _),
    optional_toFields hfs (i := 5) rfl fun w _ => restores_word w]
  rfl

theorem restores_softOverrides (s : SoftOverrides) :
    Restores (ρ := Number) (record SoftOverrides.read) s.view s := by
  refine restores_record rfl fun hfs => ?_
  unfold SoftOverrides.read
  rw [optional_toFields hfs (i := 0) rfl fun t _ => restores_text t,
    optional_toFields hfs (i := 1) rfl fun w _ => restores_word w]
  rfl

theorem restores_overrides {o : Overrides Number} (h : o.Sound) :
    Restores (record Overrides.read) o.view o := by
  have hforced : Restores (ρ := Number) (keyed text) (ofKeyed .text o.forceVariant)
      o.forceVariant :=
    restores_keyed_self h.forceVariant fun e _ => restores_text e.2
  refine restores_record rfl fun hfs => ?_
  unfold Overrides.read
  rw [field_toFields hfs (i := 0) rfl hforced,
    optional_toFields hfs (i := 1) rfl fun w _ => restores_word w,
    optional_toFields hfs (i := 2) rfl fun s _ => restores_text s,
    optional_toFields hfs (i := 3) rfl fun b _ => restores_flag b,
    optional_toFields hfs (i := 4) rfl fun w _ => restores_softOverrides w,
    optional_toFields hfs (i := 5) rfl fun w _ => restores_word w,
    optional_toFields hfs (i := 6) rfl (restores_reals h.expiresAt)]
  rfl

theorem restores_policyCaps (c : PolicyCaps) :
    Restores (ρ := Number) (record PolicyCaps.read) c.view c := by
  refine restores_record rfl fun hfs => ?_
  unfold PolicyCaps.read
  rw [optional_toFields hfs (i := 0) rfl fun i _ => restores_integer i]
  rfl

theorem restores_policyInfo (p : PolicyInfo) :
    Restores (ρ := Number) (record PolicyInfo.read) p.view p := by
  refine restores_record rfl fun hfs => ?_
  unfold PolicyInfo.read
  rw [field_toFields hfs (i := 0) rfl (restores_text _),
    optional_toFields hfs (i := 1) rfl fun c _ => restores_policyCaps c,
    optional_toFields hfs (i := 2) rfl fun s _ => restores_text s]
  rfl

theorem restores_traceEvent {e : TraceEvent Number} (h : e.Sound) :
    Restores (record TraceEvent.read) e.view e := by
  refine restores_record rfl fun hfs => ?_
  unfold TraceEvent.read
  rw [required_toFields hfs (i := 0) rfl (restores_text _),
    required_toFields hfs (i := 1) rfl (restores_real h),
    optional_toFields hfs (i := 2) rfl fun m _ => restores_freeForm m]
  rfl

/-- Remembered choices come back as they are, and unreadable ones as the null that stands for
    them. -/
theorem restores_sticky {m : Keyed (StickyEntry Number)} (h : m.Each StickyEntry.Sound) :
    Restores (fun d => .ok (StickyEntry.readAll d)) (ofKeyed StickyEntry.view m) m := by
  refine ⟨rfl, congrArg Checked.ok ?_⟩
  show Keyed.ofEntries ((toEntries (m.map fun e => (e.1, e.2.view))).map fun e =>
    (e.1, StickyEntry.ofData e.2)) = m
  have hentries : ((toEntries (m.map fun e => (e.1, e.2.view))).map fun e =>
      (e.1, StickyEntry.ofData e.2)) = m := by
    rw [toEntries_eq_map, List.map_map, List.map_map]
    refine (List.map_congr_left fun e he => ?_).trans (List.map_id m)
    obtain ⟨slotId, entry⟩ := e
    refine congrArg (slotId, ·) ?_
    show StickyEntry.ofData entry.view.toData = entry
    have hsound := h.all _ he
    unfold StickyEntry.ofData
    cases entry with
    | record r => rw [show (StickyEntry.record r).view = r.view from rfl,
        (restores_stickyRecord hsound).isRead, Checked.value?]
    | raw d =>
        cases hsound
        rfl
  rw [hentries, Keyed.ofEntries_eq h.nodup]

theorem restores_session {s : Session Number} (h : s.Sound) :
    Restores (record Session.read) s.view s.settled := by
  have hseen : Restores (ρ := Number) (keyed (list text)) (ofKeyed ofTexts s.seenVariants)
      s.seenVariants :=
    restores_keyed_self h.seenVariants.nodup fun e _ => restores_list fun t _ => restores_text t
  refine restores_record rfl fun hfs => ?_
  unfold Session.read
  rw [field_toFields hfs (i := 0) rfl (restores_ids _),
    field_toFields hfs (i := 1) rfl (restores_user h.user),
    field_toFields hfs (i := 2) rfl (restores_environment _),
    field_toFields hfs (i := 3) rfl (restores_metrics h.metrics),
    field_toFields hfs (i := 4) rfl
      (restores_keyed h.perSkill.nodup fun e he => restores_skillStats (h.perSkill.all e he)),
    field_toFields hfs (i := 5) rfl (restores_sticky h.sticky),
    optional_toFields hfs (i := 6) rfl fun o ho => restores_overrides (h.overrides o ho),
    field_toFields hfs (i := 7) rfl hseen,
    field_toFields hfs (i := 8) rfl (restores_policyInfo _),
    field_toFields hfs (i := 9) rfl
      (restores_list fun e he => restores_traceEvent (h.trace e he))]
  rfl

end Read

/-! ## Opening a written session -/

open Value

/-- The settings add nothing to data that already says what they prescribe. -/
theorem Session.withDefaults_eq {data user env : Keyed (Data Number)} {lang device : Data Number}
    {policy : Keyed (Data Number)} (huser : Keyed.get? data "user" = some (.object user))
    (henv : Keyed.get? data "env" = some (.object env))
    (hpolicy : Keyed.get? data "policy" = some (.object policy))
    (hlang : Keyed.get? user "lang" = some lang) (hdevice : Keyed.get? env "device" = some device)
    (settings : Settings Number) : withDefaults settings data user env = data := by
  unfold withDefaults
  rw [Keyed.insertIfNew_get? hlang, Keyed.insertIfNew_get? hdevice]
  dsimp only
  rw [Keyed.insert_get? huser, Keyed.insert_get? henv, hpolicy]

/-- **A sound session is read back whole**, whatever the settings prescribe for new sessions. -/
theorem Session.create_toData {s : Session Number} (h : s.Sound) (settings : Settings Number) :
    create settings s.toData = .ok s.settled := by
  obtain ⟨data, hdata, hread, huser, henv, hpolicy⟩ : ∃ data, s.toData = .object data ∧
      read data = .ok s.settled ∧
      Keyed.get? data "user" = some s.user.view.toData ∧
      Keyed.get? data "env" = some s.env.view.toData ∧
      Keyed.get? data "policy" = some s.policy.view.toData := by
    refine ⟨_, rfl, (Read.restores_session h).isRead, ?_, ?_, ?_⟩
    · exact Read.get?_toFields (f := ⟨"user", "user"⟩) rfl (i := 1) rfl rfl
    · exact Read.get?_toFields (f := ⟨"env", "env"⟩) rfl (i := 2) rfl rfl
    · exact Read.get?_toFields (f := ⟨"policy", "policy"⟩) rfl (i := 8) rfl rfl
  obtain ⟨user, hview, lang, hlang⟩ : ∃ user, s.user.view.toData = .object user ∧
      ∃ lang, Keyed.get? user "lang" = some lang :=
    ⟨_, rfl, _, Read.get?_toFields (f := ⟨"lang", "lang"⟩) rfl (i := 4) rfl rfl⟩
  obtain ⟨env, hview', device, hdevice⟩ :
      ∃ env : Keyed (Data Number), s.env.view.toData = .object env ∧
      ∃ device, Keyed.get? env "device" = some device :=
    ⟨_, rfl, _, Read.get?_toFields (f := ⟨"device", "device"⟩) rfl (i := 0) rfl rfl⟩
  rw [hview] at huser
  rw [hview'] at henv
  -- the written session has all that the settings would add, so they add nothing
  have hcomplete := withDefaults_eq huser henv hpolicy hlang hdevice settings
  unfold create
  simp only [hdata, Data.entries?_object, huser, henv, Option.getD_some, bind, Except.bind,
    hcomplete, hread]
  rfl

end LessonVariants
