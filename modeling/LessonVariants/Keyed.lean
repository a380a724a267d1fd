/-! # Keyed entries

    Maps from text keep their entries in the order in which the keys first appeared.  A key that
    is written again keeps its place and takes the new value. -/

namespace LessonVariants

/-- Entries under text keys, in order. -/
abbrev Keyed (α : Type) := List (String × α)

namespace Keyed

variable {α β : Type}

/-- The value under a key, the first one if the key occurs twice. -/
def get? : Keyed α → String → Option α
  | [],          _   => none
  | (k, a) :: m, key => if key = k then some a else get? m key

/-- Writes a value under a key: in place if the key is there, else at the end. -/
def insert : Keyed α → String → α → Keyed α
  | [],          key, a => [(key, a)]
  | (k, b) :: m, key, a => if k = key then (k, a) :: m else (k, b) :: insert m key a

/-- Writes a value only if the key is not there yet. -/
def insertIfNew (m : Keyed α) (key : String) (a : α) : Keyed α :=
  match m.get? key with
  | some _ => m
  | none   => m ++ [(key, a)]

/-- Drops the entries that do not satisfy a test. -/
def keep (p : String → α → Bool) (m : Keyed α) : Keyed α :=
  m.filter fun e => p e.1 e.2

/-- The keys in order. -/
def keys (m : Keyed α) : List String :=
  m.map Prod.fst

/-- Entries written one after the other, so that each key appears once. -/
def ofEntries (es : List (String × α)) : Keyed α :=
  es.foldl (fun m e => insert m e.1 e.2) []

@[simp] theorem get?_nil (key : String) : get? ([] : Keyed α) key = none := rfl

theorem get?_cons (k key : String) (a : α) (m : Keyed α) :
    get? ((k, a) :: m) key = if key = k then some a else get? m key := rfl

/-- Reading after writing: the written key has the new value and every other key keeps its own. -/
theorem get?_insert (m : Keyed α) (k key : String) (a : α) :
    get? (insert m k a) key = if key = k then some a else get? m key := by
  induction m with
  | nil => simp [insert, get?_cons]
  | cons e m ih =>
      obtain ⟨k', b⟩ := e
      by_cases h : k' = k
      · subst h
        rw [show insert ((k', b) :: m) k' a = (k', a) :: m from if_pos rfl, get?_cons, get?_cons]
        split <;> rfl
      · rw [show insert ((k', b) :: m) k a = (k', b) :: insert m k a from if_neg h,
          get?_cons, get?_cons, ih]
        by_cases h' : key = k'
        · rw [if_pos h', if_pos h', if_neg (h' ▸ h)]
        · rw [if_neg h', if_neg h']

theorem keep_cons (p : String → α → Bool) (k : String) (a : α) (m : Keyed α) :
    keep p ((k, a) :: m) = if p k a = true then (k, a) :: keep p m else keep p m :=
  List.filter_cons

/-- Reading after dropping entries: a value that satisfies the test is still there. -/
theorem get?_keep {m : Keyed α} {p : String → α → Bool} {key : String} {a : α}
    (h : get? m key = some a) (hp : p key a = true) : get? (keep p m) key = some a := by
  induction m with
  | nil => exact h
  | cons e m ih =>
      obtain ⟨k, b⟩ := e
      rw [get?_cons] at h
      rw [keep_cons]
      by_cases hk : key = k
      · rw [if_pos hk] at h
        cases h
        rw [if_pos (hk ▸ hp), get?_cons, if_pos hk]
      · rw [if_neg hk] at h
        split
        · rw [get?_cons, if_neg hk]
          exact ih h
        · exact ih h

end Keyed

end LessonVariants
