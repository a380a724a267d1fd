import LessonVariants.Proofs.Session.Opening
import LessonVariants.Sticky

/-! # Corrupt sticky data

    Whatever stands under the sticky choices of partial data, a session is opened with it just as
    well as without, and everything else in the session is the same
    (`Session.create_insert_sticky`).  Each entry is read on its own (`StickyEntry.readAll_object`).
    What is kept of it passes the strict reading of the field (`StickyEntry.MadeOf.strict`) and says the
    same as the data (`StickyEntry.MadeOf.record?`). -/

namespace LessonVariants

variable {ρ : Type} [WireScalar ρ]

/-! ## Entries -/

namespace StickyEntry

/-- An entry that is made of data: the record that the data is read as, or null if it is read as none. -/
inductive MadeOf (d : Data ρ) : StickyEntry ρ → Prop where
  | readable {r : StickyRecord ρ} : Read.record StickyRecord.read d = .ok r → MadeOf d (record r)
  | unreadable : (∀ r, Read.record StickyRecord.read d ≠ .ok r) → MadeOf d (raw .null)

/-- The strict reading of an entry, after the tolerant one: a record stays as it is, and data has to be
    null or a record. -/
def strict : StickyEntry ρ → Checked (StickyEntry ρ)
  | record r => .ok (record r)
  | raw d    =>
      (fun r => r.elim (raw .null) record) <$> Read.nullable (Read.record StickyRecord.read) d

theorem madeOf_ofData (d : Data ρ) : MadeOf d (ofData d) := by
  unfold ofData
  cases hread : Read.record StickyRecord.read d with
  | ok r => exact .readable hread
  | faulty is => exact .unreadable fun r h => nomatch hread.symm.trans h

theorem MadeOf.strict {d : Data ρ} {e : StickyEntry ρ} (h : MadeOf d e) : e.strict = .ok e := by
  cases h with
  | readable => rfl
  | unreadable => rfl

/-- **What is kept of data says the same as the data.** -/
theorem MadeOf.record? {d : Data ρ} {e : StickyEntry ρ} (h : MadeOf d e) :
    e.record? = (raw d).record? := by
  cases h with
  | readable hread => exact (congrArg Checked.value? hread).symm
  | unreadable hnone =>
      show none = (Read.record StickyRecord.read d).value?
      cases hread : Read.record StickyRecord.read d with
      | ok r => exact absurd hread (hnone r)
      | faulty is => rfl

/-- Data has the record that it is read as. -/
theorem record?_raw {d : Data ρ} {r : StickyRecord ρ} :
    (raw d).record? = some r ↔ Read.record StickyRecord.read d = .ok r := by
  show (Read.record StickyRecord.read d).value? = some r ↔ _
  cases Read.record StickyRecord.read d with
  | ok r' =>
      show some r' = some r ↔ Checked.ok r' = .ok r
      rw [Option.some.injEq, Checked.ok.injEq]
  | faulty is => exact iff_of_false (fun h => nomatch h) (fun h => nomatch h)

theorem isLive_congr {e e' : StickyEntry ρ} (h : e.record? = e'.record?) (now : ρ) :
    e.isLive now = e'.isLive now := by
  rw [isLive, isLive, h]

/-- Data that is no object holds no entries. -/
theorem readAll_eq_nil {x : Data ρ} (h : ∀ m, x ≠ .object m) : readAll x = [] := by
  cases x with
  | object m => exact absurd rfl (h m)
  | _ => rfl

/-- **An object has an entry for each of its keys, in order.** -/
theorem readAll_object {m : Keyed (Data ρ)} (h : m.keys.Nodup) :
    readAll (.object m) = m.map fun e => (e.1, ofData e.2) := by
  refine Keyed.ofEntries_eq ?_
  rw [Keyed.keys_map]
  exact h

end StickyEntry

/-! ## Opening a session -/

namespace Session

section

variable (settings : Settings ρ) (data user env : Keyed (Data ρ)) (x : Data ρ)

omit [WireScalar ρ]

theorem policyGiven_insert_sticky : policyGiven (data.insert "sticky" x) = policyGiven data := by
  unfold policyGiven
  rw [Keyed.get?_insert, if_neg (by decide)]

/-- The completed data has the sticky data as it was given. -/
theorem get?_withDefaults_sticky :
    (withDefaults settings (data.insert "sticky" x) user env).get? "sticky" = some x := by
  rw [withDefaults_places, withPlaces]
  split <;> simp [Keyed.get?_insert]

/-- The completed data has everything else as without the sticky data. -/
theorem get?_withDefaults_insert {key : String} (h : key ≠ "sticky") :
    (withDefaults settings (data.insert "sticky" x) user env).get? key
      = (withDefaults settings data user env).get? key := by
  rw [withDefaults_places, withDefaults_places, policyGiven_insert_sticky, withPlaces, withPlaces]
  split <;> simp only [Keyed.get?_insert, if_neg h]

theorem entry?_withDefaults_insert {f : FieldName} (h : f.answersTo "sticky" = false) :
    Read.entry? (withDefaults settings (data.insert "sticky" x) user env) f
      = Read.entry? (withDefaults settings data user env) f := by
  rw [FieldName.answersTo, Bool.or_eq_false_iff, beq_eq_false_iff_ne, beq_eq_false_iff_ne] at h
  rw [Read.entry?, Read.entry?, get?_withDefaults_insert _ _ _ _ _ h.1,
    get?_withDefaults_insert _ _ _ _ _ h.2]

end

/-- **Sticky data never stands in the way.**  It is read into the sticky entries of the session, and the
    rest of the session is as without it. -/
theorem create_insert_sticky {settings : Settings ρ} {given : Keyed (Data ρ)} {s : Session ρ}
    (h : create settings (.object given) = .ok s) (x : Data ρ) :
    create settings (.object (given.insert "sticky" x))
      = .ok { s with sticky := StickyEntry.readAll x } := by
  obtain ⟨data, hdata, user, huser, env, henv, hread⟩ := create_eq_ok.mp h
  rw [Data.entries?_object] at hdata
  cases hdata
  refine create_eq_ok.mpr ⟨_, Data.entries?_object _, user, ?_, env, ?_, ?_⟩
  · rw [Keyed.get?_insert, if_neg (by decide)]
    exact huser
  · rw [Keyed.get?_insert, if_neg (by decide)]
    exact henv
  · rw [readBy.eq_ok] at hread ⊢
    have hother : ∀ {f : Field ρ (Session ρ)}, f ∈ fields → f.name.answersTo "sticky" = false →
        f.of { s with sticky := StickyEntry.readAll x } = f.of s →
        f.Holds (withDefaults settings (given.insert "sticky" x) user env)
          { s with sticky := StickyEntry.readAll x } := by
      intro f hf hname hof
      rw [Field.Holds, entry?_withDefaults_insert _ _ _ _ _ hname, hof]
      exact hread f hf
    have hsticky : Read.entry? (withDefaults settings (given.insert "sticky" x) user env)
        ⟨"sticky", "sticky"⟩ = some ("sticky", x) := by
      rw [Read.entry?_own, get?_withDefaults_sticky]
      rfl
    intro f hf
    have hmem := hf
    simp only [fields, List.mem_cons, List.not_mem_nil, or_false] at hmem
    rcases hmem with rfl | rfl | rfl | rfl | rfl | rfl | rfl | rfl | rfl | rfl
    iterate 5 exact hother hf rfl rfl
    · refine Field.holds_nested.mpr ?_
      rw [Read.field, hsticky]
      rfl
    iterate 4 exact hother hf rfl rfl

/-! ## The theorem -/

/-- **Corrupt sticky data never blocks a session and reads as invalid.**  Partial data that a session is
    opened from may have anything put under its sticky choices: a session is opened still, and it
    differs in its sticky entries only.  It has none if no object was given, and else one for each key of
    the object, in order.  An entry is the record that the data under its key is read as, or null, and it
    passes the strict reading of the field.  It counts at any time just if the data itself does, and the
    slot has a record just if the data is readable as one. -/
theorem corrupt_sticky_never_blocks {settings : Settings ρ} {given : Keyed (Data ρ)}
    {s : Session ρ} (h : create settings (.object given) = .ok s) (x : Data ρ) :
    ∃ t, create settings (.object (given.insert "sticky" x)) = .ok t ∧
      t = { s with sticky := t.sticky } ∧
      ((∀ m, x ≠ .object m) → t.sticky = []) ∧
      ∀ m : Keyed (Data ρ), x = .object m → m.keys.Nodup →
        t.sticky.keys = m.keys ∧
        ∀ slotId d, m.get? slotId = some d →
          ∃ e, t.sticky.get? slotId = some e ∧ e.MadeOf d ∧ e.strict = .ok e ∧
            (∀ now, e.isLive now = (StickyEntry.raw d).isLive now) ∧
            (∀ now, t.isStickyLive slotId now = (StickyEntry.raw d).isLive now) ∧
            ∀ r, t.stickyRecord? slotId = some r ↔ Read.record StickyRecord.read d = .ok r := by
  refine ⟨_, create_insert_sticky h x, rfl, StickyEntry.readAll_eq_nil, ?_⟩
  rintro m rfl hm
  generalize ht : { s with sticky := StickyEntry.readAll (.object m) } = t
  have hall : t.sticky = m.map fun e => (e.1, StickyEntry.ofData e.2) := by
    rw [← ht]
    exact StickyEntry.readAll_object hm
  refine ⟨(congrArg Keyed.keys hall).trans (Keyed.keys_map m _), fun slotId d hd => ?_⟩
  have hentry : t.sticky.get? slotId = some (.ofData d) := by
    rw [hall, Keyed.get?_map, hd]
    rfl
  have hmade := StickyEntry.madeOf_ofData d
  have hlive := StickyEntry.isLive_congr hmade.record?
  refine ⟨.ofData d, hentry, hmade, hmade.strict, hlive, fun now => ?_, fun r => ?_⟩
  · rw [isStickyLive, hentry]
    exact hlive now
  · rw [stickyRecord?, hentry]
    show (StickyEntry.ofData d).record? = some r ↔ _
    rw [hmade.record?]
    exact StickyEntry.record?_raw

/-- A record with a lifetime among corrupt entries: it counts until its lifetime has passed, and an entry
    without a readable time is null. -/
theorem corrupt_sticky_never_blocks_mixed :
    let given : Keyed (Data Rat) := [("ids", .object [("userId", .text "u")])]
    let good : Data Rat :=
      .object [("variantId", .text "A"), ("at", .number 1), ("ttlMs", .text "10")]
    let bad : Data Rat := .object [("variantId", .text "A"), ("at", .text "not a number")]
    let x : Data Rat := .object [("bad", bad), ("good", good), ("none", .null), ("odd", .list [good])]
    ∃ t, create .default (.object (given.insert "sticky" x)) = .ok t ∧ t.ids.userId = "u" ∧
      t.sticky.keys = ["bad", "good", "none", "odd"] ∧
      t.stickyRecord? "good" = some { variantId := "A", time := 1, ttlMs := some 10 } ∧
      t.isStickyLive "good" 11 = true ∧ t.isStickyLive "good" 12 = false ∧
      t.sticky.get? "bad" = some (.raw .null) ∧ t.isStickyLive "bad" 1 = false := by
  intro given good bad x
  have hopen : create .default (.object given) = .ok _ := rfl
  obtain ⟨t, hcreate, hsame, -, hloaded⟩ := corrupt_sticky_never_blocks hopen x
  obtain ⟨hkeys, hslots⟩ := hloaded _ rfl (by decide)
  obtain ⟨-, -, -, -, -, hlive, hrecord⟩ := hslots "good" good rfl
  obtain ⟨e, hbad, hmade, -, -, hdead, -⟩ := hslots "bad" bad rfl
  have huser : t.ids.userId = "u" := by rw [hsame]
  have hcounts : (StickyEntry.raw good).isLive 11 = true := by with_unfolding_all rfl
  have hexpired : (StickyEntry.raw good).isLive 12 = false := by with_unfolding_all rfl
  have hnull : e = .raw .null := by
    cases hmade with
    | readable h => exact nomatch h
    | unreadable => rfl
  exact ⟨t, hcreate, huser, hkeys, (hrecord _).mpr rfl, (hlive 11).trans hcounts,
    (hlive 12).trans hexpired, hbad.trans (congrArg some hnull), (hdead 1).trans rfl⟩

end Session

end LessonVariants
