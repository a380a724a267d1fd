import LessonVariants.Proofs.Keyed
import LessonVariants.Proofs.Vocabulary
import LessonVariants.Session.Read
import LessonVariants.Session.View

/-! # Reading back what was written

    A reader restores a value if it reads it back from its written form (`Read.Restores`).
    Constants are restored as they are; a list is restored if its items are, a map if its values
    are, and a record if its fields are.

    A record is written without the fields that hold nothing, so a reader must not find another
    field under the names of one that was left out.  It does not, if no field is written under a
    name of another one (`Value.ownNames`); then it finds each field under its own name or not at
    all (`Read.entry?_toFields`). -/

namespace LessonVariants

variable {ρ α β : Type}

/-! ## Written forms -/

namespace Value

theorem toEntries_eq_map (m : List (String × Value ρ)) :
    toEntries m = m.map fun e => (e.1, e.2.toData) := by
  induction m with
  | nil => rfl
  | cons e m ih => exact congrArg ((e.1, e.2.toData) :: ·) ih

mutual

/-- Free-form data is written as it is. -/
theorem toData_ofData (d : Data ρ) : (ofData d).toData = d :=
  match d with
  | .null     => rfl
  | .bool _   => rfl
  | .number _ => rfl
  | .text _   => rfl
  | .list xs  => congrArg Data.list (toItems_ofItems xs)
  | .object m => congrArg Data.object (toEntries_ofEntries m)

theorem toItems_ofItems (xs : List (Data ρ)) : toItems (ofItems xs) = xs :=
  match xs with
  | []      => rfl
  | x :: xs => by rw [ofItems, toItems, toData_ofData x, toItems_ofItems xs]

theorem toEntries_ofEntries (m : List (String × Data ρ)) : toEntries (ofEntries m) = m :=
  match m with
  | []          => rfl
  | (k, x) :: m => by rw [ofEntries, toEntries, toData_ofData x, toEntries_ofEntries m]

end

/-- Whether a value is written as something other than null. -/
def isFilled : Value ρ → Bool
  | null => false
  | test => false
  | _    => true

theorem isOmitted_of_isFilled {v : Value ρ} (h : v.isFilled = true) : v.isOmitted = false := by
  cases v with
  | null => exact nomatch h
  | _ => rfl

theorem toData_ne_null {v : Value ρ} (h : v.isFilled = true) : v.toData ≠ .null := by
  cases v with
  | null => exact nomatch h
  | test => exact nomatch h
  | _ => exact fun h => nomatch h

/-- Whether no field is written under a name of another one. -/
def ownNames : List FieldName → Bool
  | []      => true
  | f :: fs =>
      fs.all (fun g => f.wire != g.wire && f.internal != g.wire && f.wire != g.internal) &&
        ownNames fs

end Value

open Value

namespace Read

/-! ## Fields -/

/-- Nothing is found under a name that no field is written under. -/
theorem get?_toFields_none {fs : List (FieldName × Value ρ)} {key : String}
    (h : ∀ e ∈ fs, e.1.wire ≠ key) : Keyed.get? (toFields fs) key = none := by
  induction fs with
  | nil => rfl
  | cons e fs ih =>
      obtain ⟨f, x⟩ := e
      have hrest := ih fun e he => h e (List.mem_cons_of_mem _ he)
      unfold toFields
      split
      · exact hrest
      · rw [Keyed.get?_cons, if_neg (h (f, x) List.mem_cons_self).symm, hrest]

/-- Fields are sought past one that has other names. -/
theorem entry?_cons {f : FieldName} {key : String} (hwire : key ≠ f.wire)
    (hinternal : key ≠ f.internal) (d : Data ρ) (m : Keyed (Data ρ)) :
    entry? ((key, d) :: m) f = entry? m f := by
  unfold entry?
  rw [Keyed.get?_cons, Keyed.get?_cons, if_neg hwire.symm, if_neg hinternal.symm]

/-- **Each field of a written record is found under its own name**, or not at all if it was left
    out. -/
theorem entry?_toFields {fs : List (FieldName × Value ρ)}
    (h : ownNames (fs.map Prod.fst) = true) {i : Nat} {f : FieldName} {v : Value ρ}
    (hv : fs[i]? = some (f, v)) :
    entry? (toFields fs) f = if v.isOmitted then none else some (f.wire, v.toData) := by
  -- the field is the first one, or lies behind one with other names
  induction fs generalizing i with
  | nil => exact nomatch hv
  | cons e fs ih =>
      obtain ⟨g, w⟩ := e
      rw [List.map_cons, ownNames, Bool.and_eq_true, List.all_eq_true] at h
      obtain ⟨hnames, hrest⟩ := h
      have hother : ∀ e ∈ fs,
          g.wire ≠ e.1.wire ∧ g.internal ≠ e.1.wire ∧ g.wire ≠ e.1.internal := by
        intro e he
        have hname := hnames e.1 (List.mem_map_of_mem he)
        rw [Bool.and_eq_true, Bool.and_eq_true] at hname
        exact ⟨bne_iff_ne.mp hname.1.1, bne_iff_ne.mp hname.1.2, bne_iff_ne.mp hname.2⟩
      cases i with
      | zero =>
          cases hv
          unfold toFields
          cases homitted : v.isOmitted with
          | true =>
              -- it is not written, and no other field is written under its names
              rw [if_pos rfl, if_pos rfl, entry?,
                get?_toFields_none fun e he => (hother e he).1.symm,
                get?_toFields_none fun e he => (hother e he).2.1.symm]
              rfl
          | false =>
              rw [if_neg Bool.false_ne_true, if_neg Bool.false_ne_true, entry?, Keyed.get?_cons,
                if_pos rfl]
      | succ i =>
          have hmem : (f, v) ∈ fs := List.mem_of_getElem? hv
          have hf := hother (f, v) hmem
          unfold toFields
          split
          · exact ih hrest hv
          · rw [entry?_cons hf.1 hf.2.2, ih hrest hv]

/-- A field that is written has its value under its wire name. -/
theorem get?_toFields {fs : List (FieldName × Value ρ)} (h : ownNames (fs.map Prod.fst) = true)
    {i : Nat} {f : FieldName} {v : Value ρ} (hv : fs[i]? = some (f, v))
    (hwritten : v.isOmitted = false) :
    Keyed.get? (toFields fs) f.wire = some v.toData := by
  have hentry := entry?_toFields h hv
  rw [hwritten, if_neg Bool.false_ne_true] at hentry
  unfold entry? at hentry
  cases hwire : Keyed.get? (toFields fs) f.wire with
  | some d =>
      rw [hwire] at hentry
      cases hentry
      rfl
  | none =>
      -- found under its internal name, which is then its wire name
      rw [hwire] at hentry
      obtain ⟨d, hd, heq⟩ := Option.map_eq_some_iff.mp hentry
      rw [(Prod.mk.inj heq).1, hwire] at hd
      exact nomatch hd

/-- A reader restores a value: something is written for it, and it is read back from that. -/
structure Restores (read : Data ρ → Checked α) (v : Value ρ) (a : α) : Prop where
  isFilled : v.isFilled = true
  isRead   : read v.toData = .ok a

theorem Restores.isWritten {read : Data ρ → Checked α} {v : Value ρ} {a : α}
    (h : Restores read v a) : v.isOmitted = false :=
  isOmitted_of_isFilled h.isFilled

section Fields

variable {fs : List (FieldName × Value ρ)} (hfs : ownNames (fs.map Prod.fst) = true) {i : Nat}
  {f : FieldName} {v : Value ρ} {a : α} {read : Data ρ → Checked α}

include hfs

theorem field_toFields (hv : fs[i]? = some (f, v)) (h : Restores read v a) {default : α} :
    field (toFields fs) f default read = .ok a := by
  unfold field
  rw [entry?_toFields hfs hv, h.isWritten, if_neg Bool.false_ne_true]
  dsimp only
  rw [h.isRead]
  rfl

theorem required_toFields (hv : fs[i]? = some (f, v)) (h : Restores read v a) :
    required (toFields fs) f read = .ok a := by
  unfold required
  rw [entry?_toFields hfs hv, h.isWritten, if_neg Bool.false_ne_true]
  dsimp only
  rw [h.isRead]
  rfl

/-- What is left out for holding nothing is restored as nothing. -/
theorem optional_toFields {view : α → Value ρ} {o : Option α}
    (hv : fs[i]? = some (f, ofOption view o))
    (h : ∀ a, o = some a → Restores read (view a) a) :
    optional (toFields fs) f read = .ok o := by
  unfold optional field
  rw [entry?_toFields hfs hv]
  cases o with
  | none => rfl
  | some a =>
      have ha := h a rfl
      have hnullable : nullable read (view a).toData = .ok (some a) := by
        unfold nullable
        split
        · next hnull => exact absurd hnull (toData_ne_null ha.isFilled)
        · rw [ha.isRead]
          rfl
      rw [show ofOption view (some a) = view a from rfl, ha.isWritten, if_neg Bool.false_ne_true]
      dsimp only
      rw [hnullable]
      rfl

end Fields

/-! ## Constants -/

theorem restores_text (s : String) : Restores (ρ := ρ) text (.text s) s :=
  ⟨rfl, rfl⟩

theorem restores_word [Vocabulary α] [LawfulVocabulary α] (a : α) :
    Restores (ρ := ρ) word (ofWord a) a := by
  refine ⟨rfl, ?_⟩
  show word (ρ := ρ) (.text (Vocabulary.label a)) = .ok a
  unfold word
  dsimp only
  rw [LawfulVocabulary.ofLabel?_label]

/-! ## Containers -/

theorem restores_list {read : Data ρ → Checked α} {view : α → Value ρ} {xs : List α}
    (h : ∀ x ∈ xs, Restores read (view x) x) : Restores (list read) (ofList view xs) xs := by
  refine ⟨rfl, ?_⟩
  show items read 0 (toItems (xs.map view)) = .ok xs
  generalize 0 = n
  induction xs generalizing n with
  | nil => rfl
  | cons x xs ih =>
      have hx := (h x List.mem_cons_self).isRead
      have hxs := ih (fun x hx => h x (List.mem_cons_of_mem _ hx)) (n + 1)
      rw [List.map_cons, toItems, items, hx, hxs]
      rfl

/-- A map is restored with the values that are read for its own. -/
theorem restores_keyed {read : Data ρ → Checked β} {view : α → Value ρ} {g : α → β} {m : Keyed α}
    (hnodup : m.keys.Nodup) (h : ∀ e ∈ m, Restores read (view e.2) (g e.2)) :
    Restores (keyed read) (ofKeyed view m) (m.map fun e => (e.1, g e.2)) := by
  refine ⟨rfl, ?_⟩
  show (entries read (toEntries (m.map fun e => (e.1, view e.2)))).map Keyed.ofEntries = _
  have hentries : entries read (toEntries (m.map fun e => (e.1, view e.2)))
      = .ok (m.map fun e => (e.1, g e.2)) := by
    clear hnodup
    induction m with
    | nil => rfl
    | cons e m ih =>
        obtain ⟨k, a⟩ := e
        have ha := (h (k, a) List.mem_cons_self).isRead
        have hm := ih fun e he => h e (List.mem_cons_of_mem _ he)
        rw [List.map_cons, toEntries, entries, ha, hm]
        rfl
  have hkeys : (Keyed.keys (m.map fun e => (e.1, g e.2))).Nodup := by
    rw [Keyed.keys, List.map_map]
    exact hnodup
  rw [hentries]
  exact congrArg Checked.ok (Keyed.ofEntries_eq hkeys)

/-- A map is restored if its values are. -/
theorem restores_keyed_self {read : Data ρ → Checked α} {view : α → Value ρ} {m : Keyed α}
    (hnodup : m.keys.Nodup) (h : ∀ e ∈ m, Restores read (view e.2) e.2) :
    Restores (keyed read) (ofKeyed view m) m := by
  have hm := restores_keyed (g := id) hnodup h
  rwa [show (m.map fun e => (e.1, id e.2)) = m from List.map_id m] at hm

theorem restores_freeForm (m : Keyed (Data ρ)) :
    Restores freeForm (.object (Value.ofEntries m)) m := by
  refine ⟨rfl, ?_⟩
  show freeForm (.object (toEntries (Value.ofEntries m))) = .ok m
  rw [toEntries_ofEntries]
  rfl

/-- A record is restored if it is read from its written fields. -/
theorem restores_record {kind : String} {fs : List (FieldName × Value ρ)}
    {read : Keyed (Data ρ) → Checked α} {a : α} (hfs : ownNames (fs.map Prod.fst) = true)
    (h : ownNames (fs.map Prod.fst) = true → read (toFields fs) = .ok a) :
    Restores (record read) (.record kind fs) a :=
  ⟨rfl, h hfs⟩

/-! ## Numbers -/

theorem restores_flag (b : Bool) : Restores (ρ := Number) flag (.bool b) b :=
  ⟨rfl, rfl⟩

theorem restores_integer (i : Int) : Restores (ρ := Number) integer (ofInt i) i := by
  refine ⟨rfl, ?_⟩
  show integer (.number (Number.int i)) = .ok i
  rfl

end Read

end LessonVariants
