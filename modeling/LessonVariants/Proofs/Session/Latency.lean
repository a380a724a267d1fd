import LessonVariants.Proofs.Number.Order
import LessonVariants.Proofs.Session.Attempts
import LessonVariants.Proofs.Session.Smoothing
import LessonVariants.Proofs.Wire.Yields
import Mathlib.Tactic.Linarith
import Mathlib.Tactic.NormNum

/-! # Latency within bounds

    An observed latency is moved into the bounds that the settings prescribe and then blended in.
    Settings have a weight between zero and one (`Settings.read_yields`), but nothing relates their
    two bounds.  Observations are moved into the bounds just if these are in order, and the smoothed
    latency stays within its start and the bounds just if they are, or the weight is one
    (`latencies_keep_bounds_iff`).  Where the bounds cross, the lower one replaces every
    observation. -/

namespace LessonVariants

/-! ## Greatest and least numbers -/

namespace Scalar

theorem maxFirst_rat (a b : Rat) : maxFirst a b = max a b := by
  unfold maxFirst
  by_cases h : a < b
  · rw [if_pos (lt_rat.mpr h), max_eq_right h.le]
  · rw [if_neg (fun hlt => h (lt_rat.mp hlt)), max_eq_left (not_lt.mp h)]

theorem minFirst_rat (a b : Rat) : minFirst a b = min a b := by
  unfold minFirst
  by_cases h : b < a
  · rw [if_pos (lt_rat.mpr h), min_eq_right h.le]
  · rw [if_neg (fun hlt => h (lt_rat.mp hlt)), min_eq_left (not_lt.mp h)]

end Scalar

namespace Settings

/-! ## The weight -/

theorem checkAlpha_eq_none {alpha : Rat} (h : checkAlpha alpha = none) : alpha ∈ Set.Icc 0 1 := by
  unfold checkAlpha at h
  split at h
  · exact nomatch h
  · split at h
    · exact nomatch h
    · rename_i hhigh hlow
      rw [Bool.not_eq_true', Bool.not_eq_false, Scalar.le_rat] at hhigh hlow
      exact ⟨hlow, hhigh⟩

/-- **Settings have a weight between zero and one.** -/
theorem read_yields (m : Keyed (Data Rat)) : (read m).Yields fun s => s.alpha ∈ Set.Icc 0 1 := by
  have hdefault : (default : Settings Rat).alpha ∈ Set.Icc 0 1 := checkAlpha_eq_none rfl
  have halpha := Read.field_yields hdefault
    (fun d => .andAlso (Read.real d) fun _ => checkAlpha_eq_none) m
  refine .seq (.seq (.seq (.seq (.seq (.seq (.seq (.seq (.seq (.map (halpha _) ?_)
    (.any _)) (.any _)) (.any _)) (.any _)) (.any _)) (.any _)) (.any _)) (.any _)) (.any _)
  exact fun _ h _ _ _ _ _ _ _ _ _ _ _ _ _ _ _ _ _ _ => h

/-! ## Observations -/

/-- Observations are moved into the bounds of the settings: one above the upper bound is lowered to
    it, and one below the lower bound is raised to it. -/
structure ClipsIntoBounds (settings : Settings Rat) : Prop where
  within  : ∀ observed,
    settings.latencyClip.apply observed ∈ Set.Icc settings.latencyMin settings.latencyMax
  lowered : ∀ observed, settings.latencyMax < observed →
    settings.latencyClip.apply observed = settings.latencyMax
  raised  : ∀ observed, observed < settings.latencyMin →
    settings.latencyClip.apply observed = settings.latencyMin

/-- In exact arithmetic an observation is lowered first and raised last. -/
theorem latencyClip_apply (settings : Settings Rat) (observed : Rat) :
    settings.latencyClip.apply observed
      = max settings.latencyMin (min settings.latencyMax observed) := by
  rw [LatencyClip.apply, Scalar.maxFirst_rat, Scalar.minFirst_rat]
  rfl

/-- Where the bounds cross, the lower one replaces every observation. -/
theorem latencyClip_apply_of_crossed {settings : Settings Rat}
    (h : settings.latencyMax < settings.latencyMin) (observed : Rat) :
    settings.latencyClip.apply observed = settings.latencyMin := by
  rw [latencyClip_apply]
  exact max_eq_left ((min_le_left _ _).trans h.le)

/-- **Observations are moved into the bounds just if these are in order.** -/
theorem clipsIntoBounds_iff (settings : Settings Rat) :
    settings.ClipsIntoBounds ↔ settings.latencyMin ≤ settings.latencyMax := by
  constructor
  · intro h
    obtain ⟨hlow, hhigh⟩ := h.within 0
    exact hlow.trans hhigh
  · intro h
    refine ⟨fun observed => ?_, fun observed hhigh => ?_, fun observed hlow => ?_⟩ <;>
      rw [latencyClip_apply]
    · exact ⟨le_max_left _ _, max_le h (min_le_left _ _)⟩
    · rw [min_eq_left hhigh.le, max_eq_right h]
    · rw [min_eq_right (hlow.le.trans h), max_eq_left hlow.le]

end Settings

/-! ## Runs -/

section

variable {ρ : Type} [Scalar ρ]

/-- **The latency sees the observations among the calls.**  It is smoothed over what the clip makes of
    them, one after the other. -/
theorem Session.latency_observations (s : Session ρ) {alpha : ρ} {clip : LatencyClip ρ}
    {calls : List (Call ρ)} {observed : List ρ}
    (h : calls.filter (·.aspect = .latency)
      = observed.map fun ms => .update (.latency alpha clip ms)) :
    (calls.foldl after s).metrics.latency
      = (observed.map clip.apply).foldl (blend alpha) s.metrics.latency := by
  rw [List.foldl_map]
  exact (separated_after.content_map h s).trans
    (List.foldl_hom (fun s : Session ρ => s.metrics.latency) fun _ _ => rfl).symm

/-- The observation of a latency, with the weight and the bounds of the settings. -/
def Settings.observation (settings : Settings ρ) (ms : ρ) : Call ρ :=
  .update (.latency settings.alpha settings.latencyClip ms)

end

/-- Observations that come among any other calls keep the smoothed latency within its start and the
    bounds of the settings.  A run that was cut short is a run too, so this holds at every moment. -/
def Settings.SmoothsWithinBounds (settings : Settings Rat) : Prop :=
  ∀ (s : Session Rat) (calls : List (Call Rat)) (observed : List Rat),
    calls.filter (·.aspect = .latency) = observed.map settings.observation →
    (calls.foldl Session.after s).metrics.latency
      ∈ Set.Icc (min s.metrics.latency settings.latencyMin)
        (max s.metrics.latency settings.latencyMax)

/-- With weight one nothing is blended in. -/
theorem foldl_blend_one (start : Rat) (xs : List Rat) : xs.foldl (blend 1) start = start := by
  induction xs with
  | nil => rfl
  | cons x xs ih =>
      have hkept : blend 1 start x = start := by
        rw [blend_rat]
        ring
      rw [List.foldl_cons, hkept, ih]

/-- Where the bounds cross and a latency is smoothed at all, one that starts at the upper bound leaves
    it with the first observation. -/
theorem Settings.SmoothsWithinBounds.in_order {settings : Settings Rat}
    (h : settings.SmoothsWithinBounds) (halpha : settings.alpha < 1) :
    settings.latencyMin ≤ settings.latencyMax := by
  by_contra hcrossed
  rw [not_le] at hcrossed
  let s : Session Rat :=
    { metrics := { Metrics.initial with latency := settings.latencyMax } }
  obtain ⟨-, hhigh⟩ := h s [settings.observation 0] [0] rfl
  have hblended : blend settings.alpha settings.latencyMax settings.latencyMin
      ≤ settings.latencyMax := by
    rw [← latencyClip_apply_of_crossed hcrossed 0]
    exact hhigh.trans_eq (max_self _)
  have hraised : 0 < (1 - settings.alpha) * (settings.latencyMin - settings.latencyMax) :=
    mul_pos (sub_pos.mpr halpha) (sub_pos.mpr hcrossed)
  rw [blend_rat] at hblended
  linarith

/-- **The smoothed latency stays within its start and the bounds just if these are in order**, or
    nothing is ever blended in. -/
theorem Settings.smoothsWithinBounds_iff {settings : Settings Rat}
    (halpha : settings.alpha ∈ Set.Icc 0 1) :
    settings.SmoothsWithinBounds ↔
      settings.latencyMin ≤ settings.latencyMax ∨ settings.alpha = 1 := by
  constructor
  · intro h
    rcases lt_or_eq_of_le halpha.2 with hless | hone
    · exact .inl (h.in_order hless)
    · exact .inr hone
  · intro h s calls observed hcalls
    rw [s.latency_observations hcalls]
    rcases h with horder | hone
    · have hwithin := ((clipsIntoBounds_iff settings).mpr horder).within
      refine foldl_blend_mem halpha.1 halpha.2 ⟨min_le_left _ _, le_max_left _ _⟩ fun x hx => ?_
      obtain ⟨ms, -, rfl⟩ := List.mem_map.mp hx
      exact ⟨(min_le_right _ _).trans (hwithin ms).1, (hwithin ms).2.trans (le_max_right _ _)⟩
    · rw [hone, foldl_blend_one]
      exact ⟨min_le_left _ _, le_max_left _ _⟩

/-! ## The theorem -/

/-- **Latencies keep the bounds of the settings just if these are in order.**  Whatever sources settings
    are accepted from, what is blended in is what the clip makes of the observations.  These are moved
    into the bounds just if the lower one is not above the upper one, and the smoothed latency then
    stays within its start and the bounds over every run.

    If the bounds cross, the lower one replaces every observation, and the smoothed latency leaves its
    start and the bounds in some run, unless the weight is one. -/
theorem latencies_keep_bounds_iff {arguments : Keyed (Data Rat)} {environment : Keyed String}
    {file : String} {settings : Settings Rat}
    (h : Settings.ofSources arguments environment file = .ok settings) :
    (∀ (s : Session Rat) (calls : List (Call Rat)) (observed : List Rat),
      calls.filter (·.aspect = .latency) = observed.map settings.observation →
      (calls.foldl Session.after s).metrics.latency
        = (observed.map settings.latencyClip.apply).foldl (blend settings.alpha)
          s.metrics.latency) ∧
      (settings.ClipsIntoBounds ↔ settings.latencyMin ≤ settings.latencyMax) ∧
      (settings.SmoothsWithinBounds ↔
        settings.latencyMin ≤ settings.latencyMax ∨ settings.alpha = 1) ∧
      (settings.latencyMax < settings.latencyMin →
        ∀ observed, settings.latencyClip.apply observed = settings.latencyMin) :=
  ⟨fun s _ _ hcalls => s.latency_observations hcalls, settings.clipsIntoBounds_iff,
    Settings.smoothsWithinBounds_iff (Settings.read_yields _ settings h),
    Settings.latencyClip_apply_of_crossed⟩

/-- Bounds of 100 and 200 milliseconds from the environment: 5000 milliseconds are lowered to 200, and
    half the way there from 150 is 175. -/
theorem latencies_keep_bounds_lowered :
    let environment := [("ADAPTIVITY_EWMA_ALPHA", "0.5"),
      ("ADAPTIVITY_LATENCY_CLIP_MIN_MS", "100"), ("ADAPTIVITY_LATENCY_CLIP_MAX_MS", "200")]
    let settings : Settings Rat := { alpha := 1 / 2, latencyMin := 100, latencyMax := 200 }
    let s : Session Rat := { metrics := { Metrics.initial with latency := 150 } }
    let latency := ([settings.observation 5000].foldl Session.after s).metrics.latency
    Settings.ofSources [] environment "" = .ok settings ∧
      settings.latencyClip.apply 5000 = 200 ∧ latency = 175 ∧
      latency ∈ Set.Icc (min 150 100) (max 150 200) := by
  intro environment settings s latency
  have hsettings : Settings.ofSources [] environment "" = .ok settings := by with_unfolding_all rfl
  obtain ⟨hrun, hclips, hsmooths, -⟩ := latencies_keep_bounds_iff hsettings
  have horder : settings.latencyMin ≤ settings.latencyMax := by norm_num [settings]
  have hlowered : settings.latencyClip.apply 5000 = 200 :=
    (hclips.mpr horder).lowered 5000 (by norm_num [settings])
  have hblended : latency = blend (1 / 2) 150 (settings.latencyClip.apply 5000) :=
    hrun s [settings.observation 5000] [5000] rfl
  refine ⟨hsettings, hlowered, ?_,
    hsmooths.mpr (.inl horder) s [settings.observation 5000] [5000] rfl⟩
  rw [hblended, hlowered, blend_rat]
  norm_num

/-- **Bounds that cross are accepted, and then 5000 milliseconds are not lowered to 1000.**  The lower
    bound of 2000 is blended in, and the smoothed latency leaves its start and both bounds. -/
theorem crossed_bounds_exceeded :
    let environment := [("ADAPTIVITY_EWMA_ALPHA", "0.5"),
      ("ADAPTIVITY_LATENCY_CLIP_MIN_MS", "2000"), ("ADAPTIVITY_LATENCY_CLIP_MAX_MS", "1000")]
    let settings : Settings Rat := { alpha := 1 / 2, latencyMin := 2000, latencyMax := 1000 }
    let s : Session Rat := { metrics := .initial }
    let latency := (s.after (settings.observation 5000)).metrics.latency
    Settings.ofSources [] environment "" = .ok settings ∧ s.metrics.latency = 1000 ∧
      settings.latencyClip.apply 5000 = 2000 ∧ latency = 1500 ∧
      latency ∉ Set.Icc (min 1000 2000) (max 1000 1000) := by
  intro environment settings s latency
  have hstart : s.metrics.latency = 1000 := by with_unfolding_all rfl
  have hraised : settings.latencyClip.apply 5000 = 2000 :=
    Settings.latencyClip_apply_of_crossed (by norm_num [settings]) 5000
  have hblended : latency = blend (1 / 2) s.metrics.latency (settings.latencyClip.apply 5000) := rfl
  have hlatency : latency = 1500 := by
    rw [hblended, hstart, hraised, blend_rat]
    norm_num
  refine ⟨by with_unfolding_all rfl, hstart, hraised, hlatency, ?_⟩
  rw [hlatency]
  norm_num

end LessonVariants
