import LessonVariants.Number.Numeral
import LessonVariants.Slot.View
import LessonVariants.Text.Digit

/-! # Signals

    Records of what happened, for the analysis of learning: a selection with its account and its
    alternatives, a submitted answer, a turned page, or an event with a payload of its own. -/

namespace LessonVariants

variable {ρ : Type} [Scalar ρ]

/-- A short account of how a result came about. -/
inductive Account (ρ : Type) where
  | overridden
  | retained
  | fallback
  | highestScore (score : ρ)
  | otherwise

/-- The text of an account. -/
def Account.text : Account Number → String
  | overridden     => "Teacher/system override applied"
  | retained       => "Previous choice retained (sticky)"
  | fallback       => "Fallback variant"
  | highestScore x =>
      "Highest score (" ++ fixedText 2 x.toFloat ++ ") - best match for learner context"
  | otherwise      => "Selected by adaptivity engine"

/-- A variant that a traced selection looked at; it has a score if it passed its guard. -/
structure Alternative (ρ : Type) where
  variantId   : String
  score       : Option ρ
  guardPassed : Bool

namespace SelectionResult

/-- The highest of the recorded scores, the first one if scores are undefined. -/
def topScore? (r : SelectionResult ρ) : Option ρ :=
  match r.why.score with
  | []           => none
  | (_, x) :: es => some (es.foldl (fun top e => Scalar.maxFirst top e.2) x)

/-- The account of a result.  There is none if the highest score is undefined, for then no variant
    is found to have it. -/
def account? (r : SelectionResult ρ) : Option (Account ρ) :=
  if r.why.overridesUsed = some true then some .overridden
  else if r.why.stickyUsed = some true then some .retained
  else
    match r.topScore? with
    | none     => some .fallback
    | some top =>
        (r.why.score.find? fun e => Scalar.eq e.2 top).map fun e =>
          if e.1 = r.variantId then .highestScore top else .otherwise

/-- The variants that a traced selection looked at; none without a trace. -/
def alternatives (r : SelectionResult ρ) : List (Alternative ρ) :=
  r.why.guards.map fun e => ⟨e.1, r.why.score.get? e.1, e.2⟩

end SelectionResult

/-- An optional number as data. -/
def Data.ofNumber? : Option ρ → Data ρ
  | none   => .null
  | some x => .number x

/-- An optional text as data. -/
def Data.ofText? : Option String → Data ρ
  | none   => .null
  | some s => .text s

/-- An alternative as it is shown, of whatever its three parts are. -/
def Alternative.shown (variantId score guardPassed : Data ρ) : Data ρ :=
  .object [("variant_id", variantId), ("score", score), ("guard_passed", guardPassed)]

/-- An alternative as data. -/
def Alternative.toData (a : Alternative ρ) : Data ρ :=
  shown (.text a.variantId) (.ofNumber? a.score) (.bool a.guardPassed)

/-- Why no signal could be built: no account of the selection, or a clock that shows no time. -/
inductive SignalError where
  | noAccount
  | undefinedClock
  | infiniteClock
  | unreadableClock
  | noClock
  deriving DecidableEq, Repr

/-- What a signal reports.  Alternatives that the caller shows stand in place of the result's. -/
inductive Report (ρ : Type) where
  | selected (result : SelectionResult ρ) (shown : Option (List (Data ρ)))
  | answered (slotId variantId questionId correct timeMs attempts answer : Data ρ)
  | navigated (fromPage toPage direction timeMs : Data ρ)
  | other (type : String) (payload : Data ρ)

/-- Whom and what a signal is about. -/
structure SignalIds (ρ : Type) where
  userId    : Data ρ
  courseId  : Data ρ
  lessonId  : Data ρ
  pageId    : Data ρ
  attemptId : Data ρ

/-- The identity keys of a session, as its signals show them. -/
def SessionIds.signalIds (i : SessionIds) : SignalIds ρ where
  userId    := .text i.userId
  courseId  := .text i.courseId
  lessonId  := .text i.lessonId
  pageId    := .text i.pageId
  attemptId := .ofText? i.attemptId

/-- A record of one event. -/
structure Signal (ρ : Type) where
  id        : String
  type      : String
  timestamp : Data ρ
  ids       : SignalIds ρ
  payload   : Data ρ

/-- A signal as data.  It has not been passed on yet. -/
def Signal.toData (s : Signal ρ) : Data ρ :=
  .object [
    ("id", .text s.id),
    ("type", .text s.type),
    ("timestamp", s.timestamp),
    ("session_ids", .object [
      ("user_id", s.ids.userId), ("course_id", s.ids.courseId), ("lesson_id", s.ids.lessonId),
      ("page_id", s.ids.pageId), ("attempt_id", s.ids.attemptId)]),
    ("payload", s.payload),
    ("synced", .bool false),
    ("sync_attempts", .number (Scalar.ofInt 0))]

namespace Report

/-- The type of the signal that carries a report. -/
def type : Report ρ → String
  | selected ..     => "variant_selected"
  | answered ..     => "answer_submitted"
  | navigated ..    => "page_navigated"
  | other t _       => t

/-- The payload of a report. -/
def payload : Report Number → Except SignalError (Data Number)
  | selected r shown =>
      match r.account? with
      | none   => .error .noAccount
      | some a => .ok <| .object [
          ("slotId", .text r.slotId),
          ("variantId", .text r.variantId),
          ("reason", .text a.text),
          ("selectionResult", r.view.toData),
          ("alternatives", .list (shown.getD (r.alternatives.map Alternative.toData)))]
  | answered slot variant question correct ms attempts answer =>
      .ok <| .object [
        ("slotId", slot), ("variantId", variant), ("questionId", question), ("correct", correct),
        ("timeTakenMs", ms), ("attempts", attempts), ("answer", answer)]
  | navigated fromPage toPage direction ms =>
      .ok <| .object [
        ("fromPageId", fromPage), ("toPageId", toPage), ("direction", direction),
        ("timeOnPageMs", ms)]
  | other _ payload => .ok payload

/-- The identity keys of a report: navigation counts for the page it leads to. -/
def ids (own : SignalIds ρ) : Report ρ → SignalIds ρ
  | navigated _ toPage _ _ => if toPage.isVoid then own else { own with pageId := toPage }
  | _                      => own

end Report

/-- A time cut to an integer. -/
def wholeTime (time : ρ) : Except SignalError Int :=
  match Scalar.reading time with
  | .undefined   => .error .undefinedClock
  | .negInfinity => .error .infiniteClock
  | .posInfinity => .error .infiniteClock
  | .finite q    => .ok (q.num.tdiv q.den)

/-- An integer written with decimal digits of any script, perhaps with a sign and single underscores
    between digits. -/
def readWhole? (s : String) : Option Int :=
  let (negative, body) := spanSign (trimEnds isBlank s.toList)
  match (withoutUnderscores? body).map (spanDigits digitValue?) with
  | some (d :: ds, []) =>
      if longestInteger < (d :: ds).length then none
      else some (if negative then -(ofDigits (d :: ds) : Int) else ofDigits (d :: ds))
  | _ => none

/-- What a clock shows, cut to an integer: a number, a truth value as one or zero, or the text of an
    integer. -/
def clockTime : Data ρ → Except SignalError Int
  | .number t => wholeTime t
  | .bool b   => .ok (if b then 1 else 0)
  | .text s   =>
      match readWhole? s with
      | some i => .ok i
      | none   => .error .unreadableClock
  | _ => .error .noClock

/-- The signal that carries a report.  The nonce makes its id unique. -/
def Report.signal (r : Report Number) (own : SignalIds Number) (clock : Data Number)
    (nonce : String) : Except SignalError (Signal Number) := do
  let payload ← r.payload
  let time ← clockTime clock
  pure ⟨"sig_" ++ toString time ++ "_" ++ nonce, r.type, clock, r.ids own, payload⟩

end LessonVariants
