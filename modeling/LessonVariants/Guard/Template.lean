/-! # Ready-made guards -/

namespace LessonVariants

/-- Guards that authors commonly need, by name. -/
def guardTemplates : List (String × String) := [
  ("low_accuracy", "session.metrics.accEWMA < 0.7"),
  ("high_accuracy", "session.metrics.accEWMA >= 0.8"),
  ("struggling", "session.metrics.attempts > 2 && session.metrics.streak == 0"),
  ("on_streak", "session.metrics.streak >= 3"),
  ("mobile_only", "session.env.device == 'mobile'"),
  ("desktop_only", "session.env.device == 'desktop'"),
  ("hebrew", "session.user.lang == 'he'"),
  ("english", "session.user.lang == 'en'"),
  ("needs_captions", "session.user.a11y.captions == true"),
  ("needs_transcript", "session.user.a11y.transcript == true"),
  ("struggling_mobile_user", "session.metrics.accEWMA < 0.6 && session.env.device == 'mobile'"),
  ("advanced_desktop_user",
    "session.metrics.accEWMA > 0.9 && session.env.device == 'desktop' && session.metrics.streak >= 5")]

/-- A text as a string of the guard language: backslashes and apostrophes are escaped. -/
def stringLiteral (s : String) : String :=
  let escape := fun c : Char => if c = '\\' ∨ c = '\'' then ['\\', c] else [c]
  String.ofList ('\'' :: s.toList.flatMap escape ++ ['\''])

/-- The guard that a learner prefers a theme. -/
def themeGuard (theme : String) : String :=
  "session.user.preferences.theme.value == " ++ stringLiteral theme

/-- The guard that a learner is inclined to a form of content. -/
def modalityGuard (modality : String) : String :=
  "session.user.preferences.modalityBias.value == " ++ stringLiteral modality

end LessonVariants
