import LessonVariants.Guard.Cache
import LessonVariants.Proofs.Session.Settled

/-! # Guard paths read the wire data

    A path can be followed through the written form of a value, by the schema of what was written
    (`Schema.navigate`): at a record a step names a declared field by either of its names, and a
    field that was left out reads as null; at a map it is a key, and at a list a position.

    A path in a guard comes to a value just if it leads somewhere in the written data, and then the
    value is written as what stands there (`Shaped.follow`).  Everything else is rejected. -/

namespace LessonVariants

open Value

variable {ρ : Type}

/-! ## Written values -/

namespace Value

theorem toItems_eq_map (vs : List (Value ρ)) : toItems vs = vs.map toData := by
  induction vs with
  | nil => rfl
  | cons v vs ih => exact congrArg (v.toData :: ·) ih

theorem get?_toEntries (m : List (String × Value ρ)) (key : String) :
    Keyed.get? (toEntries m) key = (Keyed.get? m key).map toData := by
  induction m with
  | nil => rfl
  | cons e m ih =>
      obtain ⟨k, v⟩ := e
      rw [toEntries, Keyed.get?_cons, Keyed.get?_cons, ih]
      split <;> rfl

theorem mem_ofItems {ds : List (Data ρ)} {v : Value ρ} (h : v ∈ ofItems ds) : ∃ d, v = ofData d := by
  induction ds with
  | nil => exact nomatch h
  | cons d ds ih =>
      rcases List.mem_cons.mp h with rfl | h
      · exact ⟨d, rfl⟩
      · exact ih h

theorem mem_ofEntries {m : List (String × Data ρ)} {e : String × Value ρ} (h : e ∈ ofEntries m) :
    ∃ d, e.2 = ofData d := by
  induction m with
  | nil => exact nomatch h
  | cons f m ih =>
      obtain ⟨k, d⟩ := f
      rcases List.mem_cons.mp h with rfl | h
      · exact ⟨d, rfl⟩
      · exact ih h

/-- A field is written under its wire name, unless it holds nothing. -/
theorem getD_toFields {fs : List (FieldName × Value ρ)} (hfs : ownNames (fs.map Prod.fst) = true)
    {i : Nat} {f : FieldName} {v : Value ρ} (hv : fs[i]? = some (f, v)) :
    (Keyed.get? (toFields fs) f.wire).getD .null = v.toData := by
  cases homitted : v.isOmitted with
  | false =>
      rw [Read.get?_toFields hfs hv homitted]
      rfl
  | true =>
      have hnull : v.toData = .null := by
        cases v with
        | null => rfl
        | test => rfl
        | _ => exact nomatch homitted
      have hentry := Read.entry?_toFields hfs hv
      rw [homitted, if_pos rfl, Read.entry?] at hentry
      cases hget : Keyed.get? (toFields fs) f.wire with
      | none => exact hnull.symm
      | some d =>
          rw [hget] at hentry
          cases hentry

end Value

/-! ## Following a path through written data -/

variable [Scalar ρ]

/-- The item of a list at a number cut to an integer. -/
def itemAt? (ds : List (Data ρ)) (n : Numeral) : Option (Data ρ) :=
  match Scalar.reading (n.toScalar : ρ) with
  | .finite q => if 0 ≤ q.num.tdiv q.den then ds[(q.num.tdiv q.den).toNat]? else none
  | _         => none

/-- One step through written data, and the schema of what it leads to. -/
def Schema.step : Schema → Data ρ → Segment → Option (Schema × Data ρ)
  | record fields, .object m, .key s =>
      (fields.find? fun p => p.1.answersTo s).map fun p =>
        (p.2, (Keyed.get? m p.1.wire).getD .null)
  | map σ, .object m, .key s   => (Keyed.get? m s).map fun d => (σ, d)
  | plain, .object m, .key s   => (Keyed.get? m s).map fun d => (plain, d)
  | list σ, .list ds, .index n => (itemAt? ds n).map fun d => (σ, d)
  | plain, .list ds, .index n  => (itemAt? ds n).map fun d => (plain, d)
  | _, _, _                    => none

/-- Where a path leads through written data, if it leads anywhere. -/
def Schema.navigate (σ : Schema) (d : Data ρ) : List Segment → Option (Data ρ)
  | []      => some d
  | s :: ss => (σ.step d s).bind fun e => e.1.navigate e.2 ss

/-- A step by a text, or by a number that is finite and not negative. -/
def Segment.IsPlain (ρ : Type) [Scalar ρ] : Segment → Prop
  | .key _   => True
  | .index n => ∃ q, Scalar.reading (n.toScalar : ρ) = .finite q ∧ 0 ≤ q

/-- Whether an error says that a path leads nowhere. -/
def EvalError.isMissing : EvalError ρ → Bool
  | .noProperty _ _   => true
  | .noKey _ _        => true
  | .outOfRange _ _   => true
  | .unreadable _ _ _ => true
  | _                 => false

/-- A step into a value comes to what the step through its written form leads to, or is rejected where
    that leads nowhere. -/
inductive StepsAs : Except (EvalError ρ) (Value ρ) → Option (Schema × Data ρ) → Prop where
  | value {σ : Schema} {v : Value ρ} : Shaped σ v → StepsAs (.ok v) (some (σ, v.toData))
  | rejected {e : EvalError ρ} : e.isMissing = true → StepsAs (.error e) none

/-- A path comes to a value that is written as what the path leads to, or is rejected where it leads
    nowhere. -/
inductive ReadsAs : Except (EvalError ρ) (Value ρ) → Option (Data ρ) → Prop where
  | value (v : Value ρ) : ReadsAs (.ok v) (some v.toData)
  | rejected {e : EvalError ρ} : e.isMissing = true → ReadsAs (.error e) none

/-! ## One step -/

namespace Value

omit [Scalar ρ] in
theorem item?_of_nonneg {i : Int} (h : 0 ≤ i) (vs : List (Value ρ)) :
    item? vs i = vs[i.toNat]? := by
  have hposition : position vs i = i := if_neg (Int.not_lt.mpr h)
  rw [item?, hposition, if_neg (Int.not_lt.mpr h)]

end Value

namespace Shaped

theorem item {τ : Schema} {vs : List (Value ρ)} (hvs : ∀ v ∈ vs, Shaped τ v) {n : Numeral}
    (hn : (Segment.index n).IsPlain ρ) (walked : Walked ρ) :
    StepsAs (member walked (.list vs) (.number n.toScalar))
      ((itemAt? (toItems vs) n).map fun d => (τ, d)) := by
  obtain ⟨q, hq, hpos⟩ := hn
  have hi : 0 ≤ q.num.tdiv q.den :=
    Int.tdiv_nonneg (Rat.num_nonneg.mpr hpos) (Int.natCast_nonneg _)
  unfold member itemAt?
  dsimp only
  rw [hq]
  dsimp only
  rw [if_pos hi, toItems_eq_map, List.getElem?_map, item?_of_nonneg hi]
  cases hv : vs[(q.num.tdiv q.den).toNat]? with
  | none => exact .rejected rfl
  | some v => exact .value (hvs v (List.mem_of_getElem? hv))

theorem entry {τ : Schema} {m : List (String × Value ρ)} (hm : ∀ e ∈ m, Shaped τ e.2) (s : String)
    (walked : Walked ρ) :
    StepsAs (member walked (.object m) (.text s))
      ((Keyed.get? (toEntries m) s).map fun d => (τ, d)) := by
  unfold member
  rw [get?_toEntries]
  cases hv : Keyed.get? m s with
  | none =>
      dsimp only
      rw [hv]
      exact .rejected rfl
  | some v =>
      dsimp only
      rw [hv]
      exact .value (hm _ (Keyed.mem_of_get? hv))

theorem field {fields : List (FieldName × Schema)} {fs : List (FieldName × Value ρ)}
    (hapart : Apart fields) (hfs : ShapedFields fields fs) (kind s : String) (walked : Walked ρ) :
    StepsAs (member walked (.record kind fs) (.text s))
      ((fields.find? fun p => p.1.answersTo s).map fun p =>
        (p.2, (Keyed.get? (toFields fs) p.1.wire).getD .null)) := by
  have hnames : ownNames (fs.map Prod.fst) = true := by
    rw [hfs.names_eq]
    exact hapart.ownNames
  unfold member
  dsimp only
  rcases hfs.find? s with ⟨hdeclared, hshown⟩ | ⟨i, f, σ, v, hdeclared, hshown, hi, hv⟩
  · rw [hdeclared, hshown]
    exact .rejected rfl
  · rw [hdeclared, hshown, Option.map_some, getD_toFields hnames hi]
    exact .value hv

/-- **A step into a value of declared shape agrees with the step through its written form.** -/
theorem step {σ : Schema} {v : Value ρ} (h : Shaped σ v) {seg : Segment} (hseg : seg.IsPlain ρ)
    (walked : Walked ρ) : StepsAs (member walked v seg.toValue) (σ.step v.toData seg) := by
  cases h with
  | null => cases σ <;> cases seg <;> exact .rejected rfl
  | record hapart hfs =>
      cases seg with
      | key s => exact field hapart hfs _ s walked
      | index n => exact .rejected rfl
  | map hm =>
      cases seg with
      | key s => exact entry hm s walked
      | index n => exact .rejected rfl
  | list hvs =>
      cases seg with
      | key s => exact .rejected rfl
      | index n => exact item hvs hseg walked
  | plain d =>
      cases d with
      | list ds =>
          cases seg with
          | key s => exact .rejected rfl
          | index n =>
              refine item (fun v hv => ?_) hseg walked
              obtain ⟨d, rfl⟩ := mem_ofItems hv
              exact .plain d
      | object m =>
          cases seg with
          | key s =>
              refine entry (fun e he => ?_) s walked
              obtain ⟨d, hd⟩ := mem_ofEntries he
              rw [hd]
              exact .plain d
          | index n => exact .rejected rfl
      | _ => cases seg <;> exact .rejected rfl

/-! ## The whole path -/

/-- **A path into a value of declared shape agrees with the path through its written form.** -/
theorem follow {σ : Schema} {v : Value ρ} (h : Shaped σ v) {ss : List Segment}
    (hss : ∀ seg ∈ ss, seg.IsPlain ρ) (walked : Walked ρ) :
    ReadsAs (v.follow walked (ss.map Segment.toValue)) (σ.navigate v.toData ss) := by
  induction ss generalizing σ v walked with
  | nil => exact .value v
  | cons seg ss ih =>
      obtain ⟨hseg, hrest⟩ := List.forall_mem_cons.mp hss
      rw [List.map_cons, Value.follow, Schema.navigate]
      have hstep := h.step hseg walked
      revert hstep
      generalize member walked v seg.toValue = outcome
      generalize σ.step v.toData seg = written
      intro hstep
      cases hstep with
      | value hnext => exact ih hnext hrest _
      | rejected he => exact .rejected he

end Shaped

/-! ## The theorem -/

/-- The session and the variant as they are written, with what stands where in them. -/
def Activation.written (a : Activation ρ) : Root → Option (Schema × Data ρ)
  | .session => some (Session.schema, a.session.toData)
  | .variant => some (Variant.schema, a.variant.view.toData)
  | .slotId  => none

/-- **Guard paths read exactly the wire data.**  In a session that the engine built, and in a variant
    without a test of the caller's own, a path comes to a value just if it leads somewhere in the
    written data, and the value is written as what stands there.  Every other path is rejected.  One
    level of the stack is enough for a path of any length. -/
theorem paths_read_wire {ρ : Type} [WireScalar ρ] {a : Activation ρ} (hsession : a.session.Built)
    (hguard : ∀ run, a.variant.guard ≠ some (.test run)) {root : Root} {σ : Schema} {d : Data ρ}
    (hroot : a.written root = some (σ, d)) {ss : List Segment} (hss : ∀ seg ∈ ss, seg.IsPlain ρ)
    (room : Nat) :
    ReadsAs ((Expr.path root ss).evalWithin a.scope (room + 1)) (σ.navigate d ss) := by
  show ReadsAs ((a.scope root).follow ⟨root.text, []⟩ (ss.map Segment.toValue)) _
  cases root with
  | session =>
      cases hroot
      exact hsession.shaped.follow hss _
  | variant =>
      cases hroot
      exact (Variant.shaped hguard).follow hss _
  | slotId => exact nomatch hroot

/-- The captions of a learner are read under the internal name of their record, and are written under
    its wire name; the variant that a slot showed first is read by its position; no method of a
    record can be read. -/
theorem paths_read_wire_seen :
    let init : Data Number := .object [("seenVariants", .object [("s", .list [.text "v"])])]
    ∃ session : Session Number, Session.create .default init = .ok session ∧
      let a : Activation Number := ⟨session, "s", { id := "v" }⟩
      ReadsAs ((Expr.path .session [.key "user", .key "a11y", .key "captions"]).evalWithin a.scope 1)
        (some (.bool true)) ∧
      ReadsAs ((Expr.path .session [.key "seen_variants", .key "s", .index (.integer 0)]).evalWithin
        a.scope 1) (some (.text "v")) ∧
      ReadsAs ((Expr.path .session [.key "user", .key "model_dump"]).evalWithin a.scope 1) none := by
  intro init
  have hopen : Session.create .default init = .ok _ := rfl
  refine ⟨_, hopen, ?_⟩
  intro a
  have hguard : ∀ run, a.variant.guard ≠ some (.test run) := fun _ h => nomatch h
  have hread : ∀ ss : List Segment, (∀ seg ∈ ss, seg.IsPlain Number) →
      ReadsAs ((Expr.path .session ss).evalWithin a.scope 1)
        (Session.schema.navigate a.session.toData ss) :=
    fun _ hss => paths_read_wire (.create hopen) hguard rfl hss 0
  have hkey : ∀ s, (Segment.key s).IsPlain Number := fun _ => trivial
  have hzero : (Segment.index (.integer 0)).IsPlain Number := ⟨0, rfl, Rat.le_refl⟩
  refine ⟨hread [.key "user", .key "a11y", .key "captions"] ?_,
    hread [.key "seen_variants", .key "s", .index (.integer 0)] ?_,
    hread [.key "user", .key "model_dump"] ?_⟩
  · simp [hkey]
  · simp [hkey, hzero]
  · simp [hkey]

end LessonVariants
