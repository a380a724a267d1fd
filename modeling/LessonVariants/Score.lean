import LessonVariants.Slot.Basic

/-! # Scores

    The score of a variant is a weighted sum: need for help, match of the theme, preference for the
    form of the content, and a term for the device.  It is neither normalised nor clamped. -/

namespace LessonVariants

variable {ρ : Type} [Scalar ρ]

/-- An optional weight; nothing and zero both weigh nothing. -/
def weight (w : Option ρ) : ρ :=
  match w with
  | none   => Scalar.ofDecimal ⟨0, 0⟩
  | some x => if Scalar.isZero x then Scalar.ofDecimal ⟨0, 0⟩ else x

namespace Variant

/-- Whether the variant is made for a device; without a declaration it is made for all. -/
def fits (v : Variant ρ) (device : Device) : Bool :=
  match v.labels.deviceFit with
  | none         => true
  | some devices => devices.contains device

/-- The term for the device: a small bonus if it fits, a strong penalty if not. -/
def deviceScore (v : Variant ρ) (s : Session ρ) : ρ :=
  if v.fits s.env.device then Scalar.ofDecimal ⟨5, -2⟩ else -(Scalar.ofDecimal ⟨1, 0⟩)

/-- Whether the variant's theme is the one that the learner prefers. -/
def matchesTheme (v : Variant ρ) (s : Session ρ) : Bool :=
  match s.user.preferences.theme with
  | none   => false
  | some p => !p.value.isEmpty && v.labels.theme == some p.value

/-- The weight for the variant's form; content without a declared form is for reading. -/
def modalityWeight (v : Variant ρ) (weights : ScoreWeights ρ) : ρ :=
  let form := v.labels.modality.getD .reading
  weight ((weights.modality.getD []).get? (Vocabulary.label form))

/-- The score of a variant for a session. -/
def score (v : Variant ρ) (s : Session ρ) : ρ :=
  let weights := v.weights.getD {}
  let help := weight weights.lowAccuracy * (Scalar.ofInt 1 - s.metrics.accuracy)
  let theme := weight weights.themeMatch * Scalar.ofInt (if v.matchesTheme s then 1 else 0)
  help + theme + v.modalityWeight weights + v.deviceScore s

/-- Whether the labels of the variant suit the session: its language, its devices and its track. -/
def suits (v : Variant ρ) (s : Session ρ) : Bool :=
  let language := match v.labels.language with
    | none   => true
    | some l => l == s.user.lang
  let track := match v.labels.track, s.ids.trackId with
    | some t, some u => t.isEmpty || u.isEmpty || t == u
    | _,      _      => true
  language && v.fits s.env.device && track

end Variant

end LessonVariants
