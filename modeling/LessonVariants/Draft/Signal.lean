import LessonVariants.Draft.Basic
import LessonVariants.Signal

/-! # Signals of drafts

    A signal shows the identity keys of a draft as they are, whatever data stands in their place. -/

namespace LessonVariants

namespace Draft

/-- The data of an identity key. -/
def idData (d : Draft) (name : String) : Data Number :=
  d.data (.field "ids" name)

/-- The identity keys of a draft, as its signals show them. -/
def signalIds (d : Draft) : SignalIds Number where
  userId    := d.idData "user_id"
  courseId  := d.idData "course_id"
  lessonId  := d.idData "lesson_id"
  pageId    := d.idData "page_id"
  attemptId := d.idData "attempt_id"

end Draft

end LessonVariants
