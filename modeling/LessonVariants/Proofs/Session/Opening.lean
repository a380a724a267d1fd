import LessonVariants.Proofs.Outcome
import LessonVariants.Proofs.Session.Fields
import LessonVariants.Session.Create

/-! # Opening sessions from partial data

    A session is opened by completing the data with what the settings prescribe and reading it
    (`Session.read_completed`).  The completed data has what was given, and what is filled in where
    nothing was given (`Session.entry?_completed`).  So a field has what was given for it
    (`Session.create_given`), or else it is as in a fresh session (`Session.create_fresh_iff`).

    A policy that is given is the exception: it is not completed, and one without a version gets the
    version that policies have by default, whatever the settings prescribe. -/

namespace LessonVariants

open Read

variable {ρ α : Type}

/-! ## Entries -/

namespace Read

theorem entry?_own (m : Keyed (Data ρ)) (k : String) :
    entry? m ⟨k, k⟩ = (Keyed.get? m k).map (k, ·) := by
  unfold entry?
  cases Keyed.get? m k <;> rfl

/-- Writing under a name of another field changes nothing for a field. -/
theorem entry?_insert {f : FieldName} {k : String} (h : f.answersTo k = false)
    (m : Keyed (Data ρ)) (d : Data ρ) : entry? (m.insert k d) f = entry? m f := by
  rw [FieldName.answersTo, Bool.or_eq_false_iff, beq_eq_false_iff_ne, beq_eq_false_iff_ne] at h
  unfold entry?
  rw [Keyed.get?_insert, Keyed.get?_insert, if_neg h.1, if_neg h.2]

theorem entry?_insert_own (m : Keyed (Data ρ)) (k : String) (d : Data ρ) :
    entry? (m.insert k d) ⟨k, k⟩ = some (k, d) := by
  rw [entry?_own, Keyed.get?_insert, if_pos rfl]
  rfl

theorem entry?_singleton {f : FieldName} {k : String} (h : f.answersTo k = false) (d : Data ρ) :
    entry? [(k, d)] f = none := by
  rw [FieldName.answersTo, Bool.or_eq_false_iff, beq_eq_false_iff_ne, beq_eq_false_iff_ne] at h
  exact entry?_cons h.1.symm h.2.symm d []

/-- A field has its entry, or else the one that is filled in under its name. -/
theorem entry?_insertIfNew {f : FieldName} {k : String} (h : f.answersTo k = true → f = ⟨k, k⟩)
    (m : Keyed (Data ρ)) (d : Data ρ) :
    entry? (m.insertIfNew k d) f = (Read.entry? m f).or (Read.entry? [(k, d)] f) := by
  unfold Keyed.insertIfNew
  cases hk : f.answersTo k with
  | true =>
      rw [h hk, entry?_own, entry?_own, entry?_own]
      cases hget : Keyed.get? m k with
      | some x =>
          dsimp only
          rw [hget]
          rfl
      | none =>
          dsimp only
          rw [Keyed.get?_append, hget]
          rfl
  | false =>
      rw [entry?_singleton hk, Option.or_none]
      rw [FieldName.answersTo, Bool.or_eq_false_iff, beq_eq_false_iff_ne, beq_eq_false_iff_ne] at hk
      split
      · rfl
      · unfold entry?
        rw [Keyed.get?_append, Keyed.get?_append, Keyed.get?_cons, Keyed.get?_cons, if_neg hk.1,
          if_neg hk.2, Keyed.get?_nil, Option.or_none, Keyed.get?_nil, Option.or_none]

end Read

variable [WireScalar ρ]

namespace Data

theorem entries?_object (m : Keyed (Data ρ)) : (object m).entries? = .ok m := by
  cases m <;> rfl

/-- The entries of data; data that has none counts as empty. -/
def mapping (d : Data ρ) : Keyed (Data ρ) :=
  match d.entries? with
  | .ok m    => m
  | .error _ => []

theorem mapping_eq {d : Data ρ} {m : Keyed (Data ρ)} (h : d.entries? = .ok m) : d.mapping = m := by
  rw [mapping, h]

end Data

namespace Read

/-- The entries that stand in a field. -/
def within (m : Keyed (Data ρ)) (name : FieldName) : Keyed (Data ρ) :=
  match entry? m name with
  | some (_, d) => d.mapping
  | none        => []

theorem within_congr {m n : Keyed (Data ρ)} {name : FieldName} (h : entry? m name = entry? n name) :
    within m name = within n name := by
  rw [within, within, h]

theorem within_object {m n : Keyed (Data ρ)} {name : FieldName} {k : String}
    (h : entry? m name = some (k, .object n)) : within m name = n := by
  rw [within, h]
  exact Data.mapping_eq (Data.entries?_object n)

/-- **A record inside a record is read from the entries that stand there.** -/
theorem within_read {read : Keyed (Data ρ) → Checked α} {m : Keyed (Data ρ)} {name : FieldName}
    {default a : α} (hdefault : read [] = .ok default)
    (h : field m name default (record read) = .ok a) : read (within m name) = .ok a := by
  unfold field at h
  cases hentry : entry? m name with
  | some e =>
      obtain ⟨k, d⟩ := e
      rw [hentry] at h
      have hd : record read d = .ok a := Checked.under_eq_ok.mp h
      cases d with
      | object n =>
          rw [within_object hentry]
          exact hd
      | _ => exact nomatch hd
  | none =>
      rw [hentry] at h
      rw [within, hentry]
      exact hdefault.trans h

end Read

namespace Session

/-! ## The completed data -/

/-- Whether a policy is given, and not as null. -/
def policyGiven (data : Keyed (Data ρ)) : Bool :=
  match data.get? "policy" with
  | none       => false
  | some .null => false
  | some _     => true

/-- The entries of a learner with the language of the settings. -/
def withLanguage (settings : Settings ρ) (user : Keyed (Data ρ)) : Keyed (Data ρ) :=
  user.insertIfNew "lang" (.text (Vocabulary.label settings.language))

/-- The entries of an environment with the device of the settings. -/
def withDevice (settings : Settings ρ) (env : Keyed (Data ρ)) : Keyed (Data ρ) :=
  env.insertIfNew "device" (.text (Vocabulary.label settings.device))

/-- The policy that the settings prescribe. -/
def prescribedPolicy (settings : Settings ρ) : Keyed (Data ρ) :=
  [("version", .text settings.policyVersion)]

section

variable (settings : Settings ρ) (data user env : Keyed (Data ρ))

omit [WireScalar ρ]

/-- The data with what the settings fill in for the learner and the environment. -/
def withPlaces : Keyed (Data ρ) :=
  (data.insert "user" (.object (withLanguage settings user))).insert "env"
    (.object (withDevice settings env))

theorem withDefaults_places : withDefaults settings data user env =
    if policyGiven data then withPlaces settings data user env
    else (withPlaces settings data user env).insert "policy"
      (.object (prescribedPolicy settings)) := by
  have hpolicy : (withPlaces settings data user env).get? "policy" = data.get? "policy" := by
    rw [withPlaces, Keyed.get?_insert, if_neg (by decide), Keyed.get?_insert, if_neg (by decide)]
  rw [policyGiven, ← hpolicy]
  unfold withDefaults
  show (match (withPlaces settings data user env).get? "policy" with
    | none => _ | some .null => _ | some _ => _) = _
  cases (withPlaces settings data user env).get? "policy" with
  | none => rfl
  | some d => cases d <;> rfl

theorem entry?_withDefaults_user :
    entry? (withDefaults settings data user env) ⟨"user", "user"⟩
      = some ("user", .object (withLanguage settings user)) := by
  rw [withDefaults_places, withPlaces]
  split
  · rw [entry?_insert rfl, entry?_insert_own]
  · rw [entry?_insert rfl, entry?_insert rfl, entry?_insert_own]

theorem entry?_withDefaults_env :
    entry? (withDefaults settings data user env) ⟨"env", "env"⟩
      = some ("env", .object (withDevice settings env)) := by
  rw [withDefaults_places, withPlaces]
  split
  · rw [entry?_insert_own]
  · rw [entry?_insert rfl, entry?_insert_own]

/-- A policy that is not given is the prescribed one. -/
theorem entry?_withDefaults_policy (hpolicy : policyGiven data = false) :
    entry? (withDefaults settings data user env) ⟨"policy", "policy"⟩
      = some ("policy", .object (prescribedPolicy settings)) := by
  rw [withDefaults_places, hpolicy]
  exact entry?_insert_own _ _ _

/-- Nothing else is completed, nor is a policy that is given. -/
theorem entry?_withDefaults {f : FieldName} (huser : f.answersTo "user" = false)
    (henv : f.answersTo "env" = false)
    (hpolicy : f.answersTo "policy" = false ∨ policyGiven data = true) :
    entry? (withDefaults settings data user env) f = entry? data f := by
  rw [withDefaults_places, withPlaces]
  split
  · rw [entry?_insert henv, entry?_insert huser]
  · next hnew => rw [entry?_insert (hpolicy.resolve_right hnew), entry?_insert henv,
      entry?_insert huser]

end

/-- What is read when a session is opened: the data, completed from the settings. -/
def completed (settings : Settings ρ) (data : Keyed (Data ρ)) : Keyed (Data ρ) :=
  withDefaults settings data (within data ⟨"user", "user"⟩) (within data ⟨"env", "env"⟩)

theorem create_eq_ok {settings : Settings ρ} {init : Data ρ} {s : Session ρ} :
    create settings init = .ok s ↔ ∃ data, init.entries? = .ok data ∧
      ∃ user, ((data.get? "user").getD .null).entries? = .ok user ∧
      ∃ env, ((data.get? "env").getD .null).entries? = .ok env ∧
        read (withDefaults settings data user env) = .ok s := by
  unfold create
  rw [bind_eq_ok]
  refine exists_congr fun data => and_congr_right fun _ => ?_
  rw [bind_eq_ok]
  refine exists_congr fun user => and_congr_right fun _ => ?_
  rw [bind_eq_ok]
  refine exists_congr fun env => and_congr_right fun _ => ?_
  cases read (withDefaults settings data user env) with
  | ok s' =>
      show Except.ok s' = Except.ok s ↔ Checked.ok s' = Checked.ok s
      rw [Except.ok.injEq, Checked.ok.injEq]
  | faulty is => exact iff_of_false (fun h => nomatch h) (fun h => nomatch h)

/-- **A session is opened by reading the completed data.** -/
theorem read_completed {settings : Settings ρ} {init : Data ρ} {s : Session ρ}
    (h : create settings init = .ok s) : read (completed settings init.mapping) = .ok s := by
  obtain ⟨data, hdata, user, huser, env, henv, hread⟩ := create_eq_ok.mp h
  have hwithin : ∀ {k : String} {m : Keyed (Data ρ)},
      ((data.get? k).getD .null).entries? = .ok m → within data ⟨k, k⟩ = m := by
    intro k m hm
    rw [within, entry?_own]
    cases hget : data.get? k with
    | some d =>
        rw [hget] at hm
        exact Data.mapping_eq hm
    | none =>
        rw [hget] at hm
        cases hm
        rfl
  rw [Data.mapping_eq hdata, completed, hwithin huser, hwithin henv]
  exact hread

/-! ## The parts that are always there -/

/-- A record that every session has: where it stands, the fields it is read from, what is filled in
    for it from the settings when a session is opened from data, and how it is found in a session. -/
structure Part (ρ : Type) where
  place  : List FieldName
  Kind   : Type
  leaves : List (Field ρ Kind)
  filled : Settings ρ → Keyed (Data ρ) → Keyed (Data ρ)
  of     : Session ρ → Kind

/-- The entries that data has for a part. -/
def Part.entries (P : Part ρ) (m : Keyed (Data ρ)) : Keyed (Data ρ) :=
  P.place.foldl within m

def idsPart : Part ρ :=
  ⟨[⟨"ids", "ids"⟩], SessionIds, SessionIds.fields, fun _ _ => [], (·.ids)⟩

def userPart : Part ρ :=
  ⟨[⟨"user", "user"⟩], User ρ, User.leaves, fun settings _ => withLanguage settings [], (·.user)⟩

def accessibilityPart : Part ρ :=
  ⟨[⟨"user", "user"⟩, ⟨"a11Y", "a11y"⟩], Accessibility ρ, Accessibility.fields, fun _ _ => [],
    (·.user.accessibility)⟩

def preferencesPart : Part ρ :=
  ⟨[⟨"user", "user"⟩, ⟨"preferences", "preferences"⟩], Preferences ρ, Preferences.fields,
    fun _ _ => [], (·.user.preferences)⟩

def envPart : Part ρ :=
  ⟨[⟨"env", "env"⟩], Environment, Environment.fields, fun settings _ => withDevice settings [],
    (·.env)⟩

def metricsPart : Part ρ :=
  ⟨[⟨"metrics", "metrics"⟩], Metrics ρ, Metrics.fields, fun _ _ => [], (·.metrics)⟩

def policyPart : Part ρ :=
  ⟨[⟨"policy", "policy"⟩], PolicyInfo, PolicyInfo.fields,
    fun settings data => if policyGiven data then [] else prescribedPolicy settings, (·.policy)⟩

/-- The records that every session has. -/
def parts : List (Part ρ) :=
  [idsPart, userPart, accessibilityPart, preferencesPart, envPart, metricsPart, policyPart]

section

variable {settings : Settings ρ} {data : Keyed (Data ρ)}

theorem within_user : within (completed settings data) ⟨"user", "user"⟩
    = withLanguage settings (within data ⟨"user", "user"⟩) :=
  within_object (entry?_withDefaults_user _ _ _ _)

theorem within_env : within (completed settings data) ⟨"env", "env"⟩
    = withDevice settings (within data ⟨"env", "env"⟩) :=
  within_object (entry?_withDefaults_env _ _ _ _)

/-- The entries of a part that is not completed. -/
theorem within_completed {name : FieldName} (huser : name.answersTo "user" = false)
    (henv : name.answersTo "env" = false)
    (hpolicy : name.answersTo "policy" = false ∨ policyGiven data = true) :
    within (completed settings data) name = within data name :=
  within_congr (entry?_withDefaults _ _ _ _ huser henv hpolicy)

theorem within_policy : within (completed settings data) ⟨"policy", "policy"⟩
    = if policyGiven data then within data ⟨"policy", "policy"⟩ else prescribedPolicy settings := by
  split
  · next hgiven => exact within_completed rfl rfl (Or.inr hgiven)
  · next hnew =>
      exact within_object (entry?_withDefaults_policy _ _ _ _ (Bool.eq_false_iff.mpr hnew))

/-- A policy that is not given has no entries. -/
theorem within_policy_new (h : policyGiven data = false) :
    within data ⟨"policy", "policy"⟩ = [] := by
  rw [within, entry?_own]
  unfold policyGiven at h
  split at h
  · next hget =>
      rw [hget]
      rfl
  · next hget =>
      rw [hget]
      rfl
  · exact nomatch h

/-- Records of the learner have the entries that were given. -/
theorem within_withLanguage {user : Keyed (Data ρ)} {name : FieldName}
    (h : name.answersTo "lang" = false) :
    within (withLanguage settings user) name = within user name := by
  refine within_congr ?_
  rw [withLanguage, entry?_insertIfNew (fun hlang => nomatch h.symm.trans hlang),
    entry?_singleton h, Option.or_none]

/-- **A field has the entry that was given for it, or else the one that is filled in.** -/
theorem entry?_completed {P : Part ρ} (hP : P ∈ parts) {f : Field ρ P.Kind} (hf : f ∈ P.leaves) :
    entry? (P.entries (completed settings data)) f.name =
      (Read.entry? (P.entries data) f.name).or (Read.entry? (P.filled settings data) f.name) := by
  simp only [parts, List.mem_cons, List.not_mem_nil, or_false] at hP
  rcases hP with rfl | rfl | rfl | rfl | rfl | rfl | rfl
  · show entry? (within (completed settings data) _) _ = _
    rw [within_completed rfl rfl (Or.inl rfl)]
    exact Option.or_none.symm
  · show entry? (within (completed settings data) _) _ = _
    rw [within_user]
    exact entry?_insertIfNew (User.readBy.name_eq (i := 4) rfl (List.mem_append_left _ hf)) _ _
  · show entry? (within (within (completed settings data) _) _) _ = _
    rw [within_user, within_withLanguage rfl]
    exact Option.or_none.symm
  · show entry? (within (within (completed settings data) _) _) _ = _
    rw [within_user, within_withLanguage rfl]
    exact Option.or_none.symm
  · show entry? (within (completed settings data) _) _ = _
    rw [within_env]
    exact entry?_insertIfNew (Environment.readBy.name_eq (i := 0) rfl hf) _ _
  · show entry? (within (completed settings data) _) _ = _
    rw [within_completed rfl rfl (Or.inl rfl)]
    exact Option.or_none.symm
  · show entry? (within (completed settings data) _) _ = (Read.entry? (within data _) _).or
      (Read.entry? (if policyGiven data then [] else prescribedPolicy settings) _)
    rw [within_policy]
    cases hgiven : policyGiven data with
    | true => exact Option.or_none.symm
    | false =>
        rw [within_policy_new hgiven]
        rfl

/-- **Each field of a part is read as the session has it.** -/
theorem holds_completed {s : Session ρ} (h : read (completed settings data) = .ok s) {P : Part ρ}
    (hP : P ∈ parts) {f : Field ρ P.Kind} (hf : f ∈ P.leaves) :
    f.Holds (P.entries (completed settings data)) (P.of s) := by
  have hfields := (Session.readBy.eq_ok _ _).mp h
  simp only [fields, List.forall_mem_cons, Field.holds_nested] at hfields
  obtain ⟨hids, huser, henv, hmetrics, -, -, -, -, hpolicy, -⟩ := hfields
  have hlearner := (User.readBy.eq_ok _ _).mp (within_read rfl huser)
  have hparts := hlearner
  simp only [User.fields, List.forall_mem_append, List.forall_mem_cons, Field.holds_nested]
    at hparts
  obtain ⟨-, haccessibility, hpreferences, -⟩ := hparts
  simp only [parts, List.mem_cons, List.not_mem_nil, or_false] at hP
  rcases hP with rfl | rfl | rfl | rfl | rfl | rfl | rfl
  · exact (SessionIds.readBy.eq_ok _ _).mp (within_read rfl hids) f hf
  · exact hlearner f (List.mem_append_left _ hf)
  · exact (Accessibility.readBy.eq_ok _ _).mp (within_read rfl haccessibility) f hf
  · exact (Preferences.readBy.eq_ok _ _).mp (within_read rfl hpreferences) f hf
  · exact (Environment.readBy.eq_ok _ _).mp (within_read rfl henv) f hf
  · exact (Metrics.readBy.eq_ok _ _).mp (within_read rfl hmetrics) f hf
  · exact (PolicyInfo.readBy.eq_ok _ _).mp (within_read rfl hpolicy) f hf

end

/-! ## Opening respelled data -/

omit [WireScalar ρ] in
/-- What is given under a name that is both names of a field is respelled data, or null in both. -/
theorem given_respelled {σ : Schema} {m m' : Keyed (Data ρ)} {k : String}
    (h : Option.Rel (fun e e' => Respelled σ e.2 e'.2) (Read.entry? m ⟨k, k⟩)
      (Read.entry? m' ⟨k, k⟩)) :
    Respelled σ ((m.get? k).getD .null) ((m'.get? k).getD .null) := by
  rw [entry?_own, entry?_own] at h
  cases hm : m.get? k with
  | some d =>
      cases hm' : m'.get? k with
      | some d' =>
          rw [hm, hm'] at h
          cases h with
          | some hd => exact hd
      | none =>
          rw [hm, hm'] at h
          exact nomatch h
  | none =>
      cases hm' : m'.get? k with
      | some d' =>
          rw [hm, hm'] at h
          exact nomatch h
      | none => exact .same σ .null

/-- Respelled data has entries that give each field alike. -/
theorem entries?_respelled {σ : Schema} {read : Keyed (Data ρ) → Checked α}
    {fields : List (Field ρ α)} (h : ReadBy σ read fields) {d d' : Data ρ}
    (hd : Respelled σ d d') {m : Keyed (Data ρ)} (hm : d.entries? = .ok m) :
    ∃ m', d'.entries? = .ok m' ∧ ∀ f ∈ fields,
      Option.Rel (fun e e' => Respelled f.schema e.2 e'.2) (Read.entry? m f.name)
        (Read.entry? m' f.name) := by
  cases hd with
  | same =>
      refine ⟨m, hm, fun f _ => ?_⟩
      cases Read.entry? m f.name with
      | some e => exact .some (.same _ _)
      | none => exact .none
  | record honce hrest =>
      rw [Data.entries?_object] at hm
      cases hm
      exact ⟨_, Data.entries?_object _, fun f hf => h.entry?_respelled honce hrest hf⟩
  | map => exact nomatch h.declared
  | list => exact nomatch h.declared

omit [WireScalar ρ] in
/-- Filling in the same entry where it is missing leaves a record read alike. -/
theorem insertIfNew_alike {σ τ : Schema} {read : Keyed (Data ρ) → Checked α}
    {fields : List (Field ρ α)} (h : ReadBy σ read fields) {k : String} {i : Nat}
    (hi : σ.fields[i]? = some (⟨k, k⟩, τ)) {m m' : Keyed (Data ρ)}
    (hm : ∀ f ∈ fields, Option.Rel (fun e e' => Respelled f.schema e.2 e'.2)
      (Read.entry? m f.name) (Read.entry? m' f.name)) (d : Data ρ) :
    (read (m.insertIfNew k d)).Alike (read (m'.insertIfNew k d)) := by
  have hor : ∀ {σ : Schema} {e e' : Option (String × Data ρ)} (x : Option (String × Data ρ)),
      Option.Rel (fun e e' => Respelled σ e.2 e'.2) e e' →
      Option.Rel (fun e e' => Respelled σ e.2 e'.2) (e.or x) (e'.or x) := by
    intro σ e e' x he
    cases he with
    | some he => exact .some he
    | none =>
        cases x with
        | some y => exact .some (.same σ y.2)
        | none => exact .none
  refine h.alike fun f hf => f.alike_of_respelled ?_
  rw [entry?_insertIfNew (h.name_eq hi hf), entry?_insertIfNew (h.name_eq hi hf)]
  exact hor _ (hm f hf)

omit [WireScalar ρ] in
theorem policyGiven_iff {data : Keyed (Data ρ)} :
    policyGiven data = true ↔ (data.get? "policy").getD .null ≠ .null := by
  unfold policyGiven
  split
  · next h => simp [h]
  · next h => simp [h]
  · next d hd h =>
      rw [h]
      exact iff_of_true rfl hd

/-- **Respelled data opens the same session.** -/
theorem create_respelled {settings : Settings ρ} {init init' : Data ρ} {s : Session ρ}
    (hinit : Respelled schema init init') (h : create settings init = .ok s) :
    create settings init' = .ok s := by
  obtain ⟨data, hdata, user, huser, env, henv, hread⟩ := create_eq_ok.mp h
  obtain ⟨data', hdata', hfields⟩ := entries?_respelled readBy hinit hdata
  have hplaces := hfields
  simp only [fields, List.forall_mem_cons] at hplaces
  obtain ⟨-, hatUser, hatEnv, -, -, -, -, -, hatPolicy, -⟩ := hplaces
  obtain ⟨user', huser', hlearner⟩ := entries?_respelled User.readBy (given_respelled hatUser) huser
  obtain ⟨env', henv', hdevice⟩ :=
    entries?_respelled Environment.readBy (given_respelled hatEnv) henv
  have hgiven : policyGiven data = policyGiven data' := by
    rw [Bool.eq_iff_iff, policyGiven_iff, policyGiven_iff]
    exact not_congr (given_respelled hatPolicy).eq_null_iff
  refine create_eq_ok.mpr ⟨data', hdata', user', huser', env', henv', ?_⟩
  refine (readBy.alike (fun f hf => ?_) s).mp hread
  have hother : f.name.answersTo "user" = false → f.name.answersTo "env" = false →
      (f.name.answersTo "policy" = false ∨ policyGiven data = true) →
      Option.Rel (fun e e' => (f.read e.2).Alike (f.read e'.2))
        (Read.entry? (withDefaults settings data user env) f.name)
        (Read.entry? (withDefaults settings data' user' env') f.name) := by
    intro hnoUser hnoEnv hpolicy
    rw [entry?_withDefaults _ _ _ _ hnoUser hnoEnv hpolicy,
      entry?_withDefaults _ _ _ _ hnoUser hnoEnv (hgiven ▸ hpolicy)]
    exact f.alike_of_respelled (hfields f hf)
  simp only [fields, List.mem_cons, List.not_mem_nil, or_false] at hf
  rcases hf with rfl | rfl | rfl | rfl | rfl | rfl | rfl | rfl | rfl | rfl
  · exact hother rfl rfl (Or.inl rfl)
  · show Option.Rel _ (Read.entry? _ ⟨"user", "user"⟩) (Read.entry? _ ⟨"user", "user"⟩)
    rw [entry?_withDefaults_user, entry?_withDefaults_user]
    exact .some (insertIfNew_alike User.readBy (i := 4) rfl hlearner _)
  · show Option.Rel _ (Read.entry? _ ⟨"env", "env"⟩) (Read.entry? _ ⟨"env", "env"⟩)
    rw [entry?_withDefaults_env, entry?_withDefaults_env]
    exact .some (insertIfNew_alike Environment.readBy (i := 0) rfl hdevice _)
  · exact hother rfl rfl (Or.inl rfl)
  · exact hother rfl rfl (Or.inl rfl)
  · exact hother rfl rfl (Or.inl rfl)
  · exact hother rfl rfl (Or.inl rfl)
  · exact hother rfl rfl (Or.inl rfl)
  · cases hpolicy : policyGiven data with
    | true => exact hother rfl rfl (Or.inr hpolicy)
    | false =>
        show Option.Rel _ (Read.entry? _ ⟨"policy", "policy"⟩) (Read.entry? _ ⟨"policy", "policy"⟩)
        rw [entry?_withDefaults_policy _ _ _ _ hpolicy,
          entry?_withDefaults_policy _ _ _ _ (hgiven ▸ hpolicy)]
        exact .some fun _ => Iff.rfl
  · exact hother rfl rfl (Or.inl rfl)

/-! ## The theorem -/

/-- The session that is opened from nothing. -/
def fresh (settings : Settings ρ) : Session ρ where
  user    := { lang := settings.language }
  env     := { device := settings.device }
  metrics := .initial
  policy  := { version := settings.policyVersion }

theorem create_null (settings : Settings ρ) : create settings .null = .ok (fresh settings) := by
  have hread : read (withDefaults settings [] [] []) = .ok (fresh settings) := by
    obtain ⟨alpha, latencyMin, latencyMax, language, device, version, strength, scope, trace, honor⟩ :=
      settings
    cases language <;> cases device <;> rfl
  exact create_eq_ok.mpr ⟨[], rfl, [], rfl, [], rfl, hread⟩

section

variable {settings : Settings ρ} {init : Data ρ} {s : Session ρ} {P : Part ρ}
  {f : Field ρ P.Kind}

/-- What is given for a field is what the session has there. -/
theorem create_given (h : create settings init = .ok s) (hP : P ∈ parts) (hf : f ∈ P.leaves)
    {k : String} {d : Data ρ} (hgiven : entry? (P.entries init.mapping) f.name = some (k, d)) :
    f.read d = .ok (f.of (P.of s)) := by
  have hholds := holds_completed (read_completed h) hP hf
  rw [Field.Holds, entry?_completed hP hf, hgiven] at hholds
  exact Checked.under_eq_ok.mp hholds

/-- A field that is not given is read from what is filled in. -/
theorem create_filled (h : create settings init = .ok s) (hP : P ∈ parts) (hf : f ∈ P.leaves)
    (hnew : entry? (P.entries init.mapping) f.name = none) :
    f.readAt (Read.entry? (P.filled settings init.mapping) f.name) = .ok (f.of (P.of s)) := by
  have hholds := holds_completed (read_completed h) hP hf
  rwa [Field.Holds, entry?_completed hP hf, hnew, Option.none_or] at hholds

/-- The version of a policy that is given without one, where the settings prescribe another version
    than policies have by default. -/
def Overlooked (settings : Settings ρ) (init : Data ρ) (P : Part ρ) (f : Field ρ P.Kind) : Prop :=
  P.place = [⟨"policy", "policy"⟩] ∧ f.name = ⟨"version", "version"⟩ ∧
    policyGiven init.mapping = true ∧ settings.policyVersion ≠ "dev"

theorem entries_nil (P : Part ρ) : P.entries [] = [] := by
  have hfold : ∀ place : List FieldName, place.foldl within ([] : Keyed (Data ρ)) = [] := by
    intro place
    induction place with
    | nil => rfl
    | cons name place ih => exact ih
  exact hfold P.place

/-- Only what is filled in for a policy depends on the data. -/
theorem eq_policyPart_or (hP : P ∈ parts) :
    P = policyPart ∨ P.place ≠ [⟨"policy", "policy"⟩] ∧
      ∀ settings data, P.filled settings data = P.filled settings [] := by
  simp only [parts, List.mem_cons, List.not_mem_nil, or_false] at hP
  rcases hP with rfl | rfl | rfl | rfl | rfl | rfl | rfl
  · exact Or.inr ⟨by simp [idsPart], fun _ _ => rfl⟩
  · exact Or.inr ⟨by simp [userPart], fun _ _ => rfl⟩
  · exact Or.inr ⟨by simp [accessibilityPart], fun _ _ => rfl⟩
  · exact Or.inr ⟨by simp [preferencesPart], fun _ _ => rfl⟩
  · exact Or.inr ⟨by simp [envPart], fun _ _ => rfl⟩
  · exact Or.inr ⟨by simp [metricsPart], fun _ _ => rfl⟩
  · exact Or.inl rfl

/-- Nothing is filled in for a policy that is given: its fields have their own defaults, and those
    are the ones of a prescribed policy but for its version. -/
theorem default_policy_iff {f : Field ρ PolicyInfo} (hf : f ∈ PolicyInfo.fields) {p : PolicyInfo}
    (hp : f.readAt none = .ok (f.of p)) (version : String) :
    f.of p = f.of { version := version } ↔ (f.name = ⟨"version", "version"⟩ → version = "dev") := by
  simp only [PolicyInfo.fields, List.mem_cons, List.not_mem_nil, or_false] at hf
  rcases hf with rfl | rfl | rfl
  · have hdev : "dev" = p.version := Checked.ok.inj hp
    show p.version = version ↔ _
    rw [← hdev]
    exact ⟨fun h _ => h.symm, fun h => (h rfl).symm⟩
  · have hcaps : none = p.caps := Checked.ok.inj hp
    have hne : ¬(⟨"caps", "caps"⟩ : FieldName) = ⟨"version", "version"⟩ := by decide
    exact iff_of_true hcaps.symm fun h => absurd h hne
  · have hhash : none = p.hash := Checked.ok.inj hp
    have hne : ¬(⟨"hash", "hash"⟩ : FieldName) = ⟨"version", "version"⟩ := by decide
    exact iff_of_true hhash.symm fun h => absurd h hne

/-- A field that is not given is as in a fresh session, unless it is the version of a policy. -/
theorem create_fresh_iff (h : create settings init = .ok s) (hP : P ∈ parts) (hf : f ∈ P.leaves)
    (hnew : entry? (P.entries init.mapping) f.name = none) :
    f.of (P.of s) = f.of (P.of (fresh settings)) ↔ ¬Overlooked settings init P f := by
  have hs := create_filled h hP hf hnew
  have hnone : entry? (P.entries (Data.mapping (.null : Data ρ))) f.name = none := by
    rw [show Data.mapping (.null : Data ρ) = [] from rfl, entries_nil]
    rfl
  have hfresh := create_filled (create_null settings) hP hf hnone
  rw [show Data.mapping (.null : Data ρ) = [] from rfl] at hfresh
  have hsame : P.filled settings init.mapping = P.filled settings [] →
      f.of (P.of s) = f.of (P.of (fresh settings)) := by
    intro hfilled
    rw [hfilled, hfresh] at hs
    exact (Checked.ok.inj hs).symm
  rcases eq_policyPart_or hP with rfl | ⟨hplace, hfilled⟩
  · cases hgiven : policyGiven init.mapping with
    | true =>
        have hempty : policyPart.filled settings init.mapping = [] := if_pos hgiven
        rw [hempty] at hs
        refine (default_policy_iff hf hs settings.policyVersion).trans ?_
        constructor
        · rintro hdev ⟨-, hname, -, hne⟩
          exact hne (hdev hname)
        · intro hseen hname
          exact Decidable.byContradiction fun hne => hseen ⟨rfl, hname, hgiven, hne⟩
    | false =>
        have hnew : ¬policyGiven init.mapping = true := Bool.eq_false_iff.mp hgiven
        exact iff_of_true (hsame (if_neg hnew)) fun hover => hnew hover.2.2.1
  · exact iff_of_true (hsame (hfilled _ _)) fun hover => hplace hover.1

/-- **Partial data is merged over a fresh session, but for the version of a policy.**  Each field of
    the records that are always there has what was given for it, or else what it has in the session
    that is opened from nothing; there the language, the device and the version of the policy are
    those of the settings.  Only the version of a policy that is given without one is not merged.  How
    the keys of records are spelled makes no difference. -/
theorem create_merges (h : create settings init = .ok s) :
    create settings .null = .ok (fresh settings) ∧
    (∀ P ∈ parts, ∀ f ∈ P.leaves,
      (∀ k d, entry? (P.entries init.mapping) f.name = some (k, d) →
        f.read d = .ok (f.of (P.of s))) ∧
      (Read.entry? (P.entries init.mapping) f.name = none →
        (f.of (P.of s) = f.of (P.of (fresh settings)) ↔ ¬Overlooked settings init P f))) ∧
    ∀ init', Respelled schema init init' → create settings init' = .ok s :=
  ⟨create_null settings,
    fun _ hP _ hf => ⟨fun _ _ => create_given h hP hf, create_fresh_iff h hP hf⟩,
    fun _ hinit => create_respelled hinit h⟩

end

/-- A learner without captions, under the internal name of the record, has the language of the
    settings, and is the same under the wire name. -/
theorem create_merges_accessibility :
    let settings : Settings Number := { Settings.default with language := .en }
    let given : Data Number := .object [("captions", .bool false)]
    ∃ s, create settings (.object [("user", .object [("a11y", given)])]) = .ok s ∧
      s.user.lang = .en ∧ s.user.accessibility.captions = false ∧
      create settings (.object [("user", .object [("a11Y", given)])]) = .ok s := by
  intro settings given
  have hopen : create settings (.object [("user", .object [("a11y", given)])]) = .ok _ := rfl
  obtain ⟨-, -, hspelling⟩ := create_merges hopen
  have honce : ∀ {fields : List (FieldName × Schema)} (e : String × Data Number),
      GivenOnce fields [e] := fun _ _ _ => List.countP_le_length
  have hfield : Respelled User.schema (Data.object [("a11y", given)])
      (.object [("a11Y", given)]) :=
    .record (honce _) (.field (List.mem_of_getElem? (i := 5) rfl) rfl rfl (.same _ given) (.nil _))
  exact ⟨_, hopen, rfl, rfl, hspelling _ (.record (honce _)
    (.field (List.mem_of_getElem? (i := 1) rfl) rfl rfl hfield (.nil _)))⟩

/-- **A policy that is given without a version does not get the prescribed one.** -/
theorem policy_version_overlooked :
    let settings : Settings Number := { Settings.default with policyVersion := "v9" }
    let init : Data Number := .object [("policy", .object [("hash", .text "h")])]
    Read.entry? (policyPart.entries init.mapping) ⟨"version", "version"⟩ = none ∧
      ∃ s, create settings init = .ok s ∧ s.policy.version = "dev" ∧
        create settings .null = .ok (fresh settings) ∧ (fresh settings).policy.version = "v9" :=
  ⟨rfl, _, rfl, rfl, rfl, rfl⟩

end Session

end LessonVariants
