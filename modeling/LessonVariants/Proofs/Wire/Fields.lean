import LessonVariants.Proofs.Wire.Spelling
import LessonVariants.Proofs.Wire.Yields

/-! # Reading records field by field

    A record is read just if each of its fields is (`ReadBy`), and a field is read from its entry
    alone, or else has its default (`Field.readAt`).  So what is read does not depend on how the keys
    are spelled (`ReadBy.respects`). -/

namespace LessonVariants

open Read

variable {ρ α β γ : Type}

/-! ## Results with the same value -/

namespace Checked

theorem under_eq_ok {c : Checked α} {key : String} {a : α} : c.under key = .ok a ↔ c = .ok a := by
  cases c with
  | ok b => exact Iff.rfl
  | faulty is => exact iff_of_false (fun h => nomatch h) (fun h => nomatch h)

theorem map_eq_ok {f : α → β} {c : Checked α} {b : β} :
    f <$> c = .ok b ↔ ∃ a, c = .ok a ∧ f a = b := by
  constructor
  · intro h
    cases c with
    | ok a =>
        cases h
        exact ⟨a, rfl, rfl⟩
    | faulty is => exact nomatch h
  · rintro ⟨_, rfl, rfl⟩
    rfl

/-- A result that is put together from parts: its last part, and the others with that part put in. -/
@[simp] theorem seq_eq_ok {f : Checked (α → β)} {c : Checked α} {b : β} :
    f <*> c = .ok b ↔ ∃ a, (fun g => g a) <$> f = .ok b ∧ c = .ok a := by
  constructor
  · intro h
    cases c with
    | ok a =>
        cases f with
        | ok g => exact ⟨a, h, rfl⟩
        | faulty is => exact nomatch h
    | faulty is => cases f <;> exact nomatch h
  · rintro ⟨a, h, rfl⟩
    cases f with
    | ok g => exact h
    | faulty is => exact nomatch h

@[simp] theorem map_seq_eq_ok {f : Checked (α → β)} {c : Checked α} {h : β → γ} {b : γ} :
    h <$> (f <*> c) = .ok b ↔ ∃ a, (fun g => h (g a)) <$> f = .ok b ∧ c = .ok a := by
  have hmap : h <$> (f <*> c) = (fun g a => h (g a)) <$> f <*> c := by
    cases f <;> cases c <;> rfl
  rw [hmap, seq_eq_ok]
  refine exists_congr fun a => and_congr_left fun _ => ?_
  cases f <;> exact Iff.rfl

@[simp] theorem map_map_eq_ok {c : Checked α} {g : α → β} {h : β → γ} {b : γ} :
    h <$> (g <$> c) = .ok b ↔ ∃ a, c = .ok a ∧ h (g a) = b := by
  rw [map_eq_ok]
  constructor
  · rintro ⟨_, hg, rfl⟩
    obtain ⟨a, ha, rfl⟩ := map_eq_ok.mp hg
    exact ⟨a, ha, rfl⟩
  · rintro ⟨a, ha, rfl⟩
    exact ⟨_, map_eq_ok.mpr ⟨a, ha, rfl⟩, rfl⟩

/-- Two results that have the same value, or both none. -/
def Alike (c c' : Checked α) : Prop :=
  ∀ a, c = .ok a ↔ c' = .ok a

namespace Alike

variable {c c' : Checked α}

theorem map (h : c.Alike c') (f : α → β) : (f <$> c).Alike (f <$> c') := by
  intro b
  rw [map_eq_ok, map_eq_ok]
  exact exists_congr fun a => and_congr_left fun _ => h a

theorem seq {f f' : Checked (α → β)} (hf : f.Alike f') (h : c.Alike c') :
    (f <*> c).Alike (f' <*> c') := by
  intro b
  rw [seq_eq_ok, seq_eq_ok]
  exact exists_congr fun a => and_congr (hf.map _ b) (h a)

theorem under (h : c.Alike c') (key key' : String) : (c.under key).Alike (c'.under key') := by
  intro a
  rw [under_eq_ok, under_eq_ok]
  exact h a

theorem value? (h : c.Alike c') : c.value? = c'.value? := by
  cases c with
  | ok a => rw [(h a).mp rfl]
  | faulty is =>
      cases c' with
      | ok a => exact nomatch (h a).mpr rfl
      | faulty js => rfl

end Alike

end Checked

/-! ## Readers that do not see the spelling -/

/-- A reader that reads the same however the keys of records are spelled. -/
def Respects (σ : Schema) (read : Data ρ → Checked α) : Prop :=
  ∀ d d', Respelled σ d d' → (read d).Alike (read d')

/-- Data without records has no other spelling. -/
theorem respects_plain (read : Data ρ → Checked α) : Respects .plain read := by
  intro d d' h
  cases h
  exact fun _ => Iff.rfl

namespace Respects

variable {σ : Schema} {read : Data ρ → Checked α}

theorem nullable (h : Respects σ read) : Respects σ (Read.nullable read) := by
  intro d d' hd
  have hnull := hd.eq_null_iff
  by_cases hempty : d = .null
  · rw [hempty, hnull.mp hempty]
    exact fun _ => Iff.rfl
  · have hsome : ∀ d : Data ρ, d ≠ .null → Read.nullable read d = some <$> read d := by
      intro d hd
      cases d with
      | null => exact absurd rfl hd
      | _ => rfl
    rw [hsome d hempty, hsome d' (fun h => hempty (hnull.mpr h))]
    exact (h d d' hd).map some

theorem items (h : Respects σ read) {ds ds' : List (Data ρ)} (hds : RespelledItems σ ds ds')
    (n : Nat) : (Read.items read n ds).Alike (Read.items read n ds') := by
  induction ds generalizing ds' n with
  | nil =>
      cases hds
      exact fun _ => Iff.rfl
  | cons d ds ih =>
      cases hds with
      | cons hd hrest => exact (((h _ _ hd).under _ _).map _).seq (ih hrest (n + 1))

theorem list (h : Respects σ read) : Respects (.list σ) (Read.list read) := by
  intro d d' hd
  cases hd with
  | same => exact fun _ => Iff.rfl
  | list hds => exact h.items hds 0

theorem entries (h : Respects σ read) {m m' : Keyed (Data ρ)} (hm : RespelledValues σ m m') :
    (Read.entries read m).Alike (Read.entries read m') := by
  induction m generalizing m' with
  | nil =>
      cases hm
      exact fun _ => Iff.rfl
  | cons e m ih =>
      cases hm with
      | cons k hd hrest => exact (((h _ _ hd).under k k).map _).seq (ih hrest)

theorem keyed (h : Respects σ read) : Respects (.map σ) (Read.keyed read) := by
  intro d d' hd
  cases hd with
  | same => exact fun _ => Iff.rfl
  | map hm => exact (h.entries hm).map Keyed.ofEntries

end Respects

/-! ## Fields -/

/-- A field of a record, as it is read: its name, what stands there, its default if it may be left
    out, the reader of its content, and where the record keeps it. -/
structure Field (ρ α : Type) where
  name     : FieldName
  schema   : Schema
  Content  : Type
  default  : Option Content
  read     : Data ρ → Checked Content
  of       : α → Content
  respects : Respects schema read

namespace Field

/-- A field with plain data that may be left out. -/
def plain (name : FieldName) (default : β) (read : Data ρ → Checked β) (of : α → β) : Field ρ α :=
  ⟨name, .plain, β, some default, read, of, respects_plain read⟩

/-- A field with plain data that may be left out or null. -/
def plain? (name : FieldName) (read : Data ρ → Checked β) (of : α → Option β) : Field ρ α :=
  plain name none (nullable read) of

/-- A field with plain data that has to be there. -/
def needed (name : FieldName) (read : Data ρ → Checked β) (of : α → β) : Field ρ α :=
  ⟨name, .plain, β, none, read, of, respects_plain read⟩

/-- A field with records that may be left out. -/
def nested {σ : Schema} {read : Data ρ → Checked β} (name : FieldName) (default : β)
    (h : Respects σ read) (of : α → β) : Field ρ α :=
  ⟨name, σ, β, some default, read, of, h⟩

/-- A field with records that may be left out or null. -/
def nested? {σ : Schema} {read : Data ρ → Checked β} (name : FieldName) (h : Respects σ read)
    (of : α → Option β) : Field ρ α :=
  nested name none h.nullable of

/-- What is read for a field from its entry, if there is one. -/
def readAt (f : Field ρ α) : Option (String × Data ρ) → Checked f.Content
  | some (k, d) => (f.read d).under k
  | none =>
      match f.default with
      | some c => .ok c
      | none   => .faulty [⟨[f.name.wire], .missing⟩]

/-- A field is read from entries as the record has it. -/
def Holds (f : Field ρ α) (m : Keyed (Data ρ)) (a : α) : Prop :=
  f.readAt (Read.entry? m f.name) = .ok (f.of a)

section

variable {σ : Schema} {name : FieldName} {default : β} {read : Data ρ → Checked β}
  {m : Keyed (Data ρ)} {a : α}

@[simp] theorem holds_plain {of : α → β} :
    (plain name default read of).Holds m a ↔ Read.field m name default read = .ok (of a) :=
  Iff.rfl

@[simp] theorem holds_plain? {of : α → Option β} :
    (plain? name read of).Holds m a ↔ Read.optional m name read = .ok (of a) :=
  Iff.rfl

@[simp] theorem holds_needed {of : α → β} :
    (needed name read of).Holds m a ↔ Read.required m name read = .ok (of a) :=
  Iff.rfl

@[simp] theorem holds_nested {h : Respects σ read} {of : α → β} :
    (nested name default h of).Holds m a ↔ Read.field m name default read = .ok (of a) :=
  Iff.rfl

@[simp] theorem holds_nested? {h : Respects σ read} {of : α → Option β} :
    (nested? name h of).Holds m a ↔ Read.optional m name read = .ok (of a) :=
  Iff.rfl

end

/-- Respelled data is read alike. -/
theorem alike_of_respelled (f : Field ρ α) {e e' : Option (String × Data ρ)}
    (h : Option.Rel (fun x x' => Respelled f.schema x.2 x'.2) e e') :
    Option.Rel (fun x x' => (f.read x.2).Alike (f.read x'.2)) e e' := by
  cases h with
  | some h => exact .some (f.respects _ _ h)
  | none => exact .none

/-- A field is read alike from entries with data that is read alike, or from none. -/
theorem readAt_alike {f : Field ρ α} {e e' : Option (String × Data ρ)}
    (h : Option.Rel (fun x x' => (f.read x.2).Alike (f.read x'.2)) e e') :
    (f.readAt e).Alike (f.readAt e') := by
  cases h with
  | some h => exact h.under _ _
  | none => exact fun _ => Iff.rfl

end Field

/-! ## Records -/

/-- A record that is read field by field: its fields are the declared ones, of which no two share a
    name, and it is read as a value just if each field is read as the value has it. -/
structure ReadBy (σ : Schema) (read : Keyed (Data ρ) → Checked α) (fields : List (Field ρ α)) :
    Prop where
  declared : σ = .record (fields.map fun f => (f.name, f.schema))
  apart    : Apart σ.fields
  eq_ok    : ∀ m a, read m = .ok a ↔ ∀ f ∈ fields, f.Holds m a

namespace ReadBy

variable {σ : Schema} {read : Keyed (Data ρ) → Checked α} {fields : List (Field ρ α)}

/-- A record is read alike from entries that give its fields alike. -/
theorem alike (h : ReadBy σ read fields) {m m' : Keyed (Data ρ)}
    (hm : ∀ f ∈ fields, Option.Rel (fun e e' => (f.read e.2).Alike (f.read e'.2))
      (Read.entry? m f.name) (Read.entry? m' f.name)) : (read m).Alike (read m') := by
  intro a
  rw [h.eq_ok, h.eq_ok]
  exact forall₂_congr fun f hf => Field.readAt_alike (hm f hf) (f.of a)

/-- Respelled entries give each field alike. -/
theorem entry?_respelled (h : ReadBy σ read fields) {m m' : Keyed (Data ρ)}
    (honce : GivenOnce σ.fields m) (hm : RespelledFields σ.fields m m') {f : Field ρ α}
    (hf : f ∈ fields) :
    Option.Rel (fun e e' => Respelled f.schema e.2 e'.2) (Read.entry? m f.name)
      (Read.entry? m' f.name) := by
  obtain ⟨rfl, hapart, -⟩ := h
  exact RespelledFields.entry? hapart (List.mem_map_of_mem hf) honce hm

/-- A name that is both names of a field is no name of another one. -/
theorem name_eq (h : ReadBy σ read fields) {k : String} {τ : Schema} {i : Nat}
    (hi : σ.fields[i]? = some (⟨k, k⟩, τ)) {f : Field ρ α} (hf : f ∈ fields)
    (hk : f.name.answersTo k = true) : f.name = ⟨k, k⟩ := by
  obtain ⟨rfl, hapart, -⟩ := h
  have hown : FieldName.answersTo ⟨k, k⟩ k = true := by simp [FieldName.answersTo]
  have heq := hapart.eq (List.mem_map_of_mem hf) (List.mem_of_getElem? hi) hk hown
  exact congrArg Prod.fst heq

/-- **A record is read the same however its keys are spelled.** -/
theorem respects (h : ReadBy σ read fields) : Respects σ (record read) := by
  intro d d' hd
  cases hd with
  | same => exact fun _ => Iff.rfl
  | record honce hm =>
      exact h.alike fun f hf => f.alike_of_respelled (h.entry?_respelled honce hm hf)
  | map => exact nomatch h.declared
  | list => exact nomatch h.declared

end ReadBy

end LessonVariants
