import LessonVariants.Vocabulary

/-! # Labels tell values apart -/

namespace LessonVariants

/-- A vocabulary whose values are read back from their labels. -/
class LawfulVocabulary (α : Type) [Vocabulary α] : Prop where
  ofLabel?_label : ∀ a : α, Vocabulary.ofLabel? (Vocabulary.label a) = some a

instance : LawfulVocabulary Language where
  ofLabel?_label a := by cases a <;> rfl

instance : LawfulVocabulary Device where
  ofLabel?_label a := by cases a <;> rfl

instance : LawfulVocabulary Network where
  ofLabel?_label a := by cases a <;> rfl

instance : LawfulVocabulary Gender where
  ofLabel?_label a := by cases a <;> rfl

instance : LawfulVocabulary Difficulty where
  ofLabel?_label a := by cases a <;> rfl

instance : LawfulVocabulary Provenance where
  ofLabel?_label a := by cases a <;> rfl

instance : LawfulVocabulary Tone where
  ofLabel?_label a := by cases a <;> rfl

instance : LawfulVocabulary Authority where
  ofLabel?_label a := by cases a <;> rfl

instance : LawfulVocabulary Scope where
  ofLabel?_label a := by cases a <;> rfl

instance : LawfulVocabulary Strength where
  ofLabel?_label a := by cases a <;> rfl

instance : LawfulVocabulary Reason where
  ofLabel?_label a := by cases a <;> rfl

end LessonVariants
