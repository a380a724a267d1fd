import LessonVariants.Keyed

/-! # Laws of keyed entries

    How written entries are found again and in what order they lie.  What the engine keeps under
    keys has each key once (`Keyed.Each`), which writing, dropping and building from entries
    preserve. -/

namespace LessonVariants

namespace Keyed

variable {α : Type}

theorem insert_cons_self (k : String) (a b : α) (m : Keyed α) :
    insert ((k, b) :: m) k a = (k, a) :: m :=
  if_pos rfl

theorem insert_cons_ne {k key : String} (h : k ≠ key) (a b : α) (m : Keyed α) :
    insert ((k, b) :: m) key a = (k, b) :: insert m key a :=
  if_neg h

/-- A key that is not there is written at the end. -/
theorem insert_new {m : Keyed α} {key : String} (h : key ∉ keys m) (a : α) :
    insert m key a = m ++ [(key, a)] := by
  induction m with
  | nil => rfl
  | cons e m ih =>
      obtain ⟨k, b⟩ := e
      have hk : k ≠ key := fun heq => h (heq ▸ List.mem_cons_self)
      rw [insert_cons_ne hk, ih fun hmem => h (List.mem_cons_of_mem k hmem)]
      rfl

/-- Writing what is there already changes nothing. -/
theorem insert_get? {m : Keyed α} {key : String} {a : α} (h : get? m key = some a) :
    insert m key a = m := by
  induction m with
  | nil => exact nomatch h
  | cons e m ih =>
      obtain ⟨k, b⟩ := e
      rw [get?_cons] at h
      by_cases hk : key = k
      · rw [if_pos hk] at h
        cases h
        rw [hk, insert_cons_self]
      · rw [if_neg hk] at h
        rw [insert_cons_ne (Ne.symm hk), ih h]

/-- What is written under a key last stays. -/
theorem insert_insert (m : Keyed α) (k : String) (a b : α) :
    insert (insert m k a) k b = insert m k b := by
  induction m with
  | nil => exact insert_cons_self k b a []
  | cons e m ih =>
      obtain ⟨k', c⟩ := e
      by_cases hk : k' = k
      · rw [hk, insert_cons_self, insert_cons_self, insert_cons_self]
      · rw [insert_cons_ne hk, insert_cons_ne hk, insert_cons_ne hk, ih]

/-- A key under which nothing is found is that of no entry. -/
theorem not_mem_keys {m : Keyed α} {key : String} (h : get? m key = none) : key ∉ keys m := by
  induction m with
  | nil => exact List.not_mem_nil
  | cons e m ih =>
      obtain ⟨k, a⟩ := e
      rw [get?_cons] at h
      by_cases hk : key = k
      · rw [if_pos hk] at h
        exact nomatch h
      · rw [if_neg hk] at h
        exact List.not_mem_cons_of_ne_of_not_mem hk (ih h)

theorem insertIfNew_get? {m : Keyed α} {key : String} {a : α} (h : get? m key = some a) (b : α) :
    insertIfNew m key b = m := by
  unfold insertIfNew
  rw [h]

theorem get?_append (m n : Keyed α) (key : String) :
    get? (m ++ n) key = (get? m key).or (get? n key) := by
  induction m with
  | nil => rfl
  | cons e m ih =>
      obtain ⟨k, a⟩ := e
      rw [List.cons_append, get?_cons, get?_cons, ih]
      split <;> rfl

/-- Reading after writing what is new: a value that was there is kept. -/
theorem get?_insertIfNew (m : Keyed α) (k key : String) (a : α) :
    get? (insertIfNew m k a) key = if key = k then some ((get? m k).getD a) else get? m key := by
  unfold insertIfNew
  by_cases hkey : key = k
  · subst hkey
    rw [if_pos rfl]
    cases hm : get? m key with
    | some b => exact hm
    | none => rw [get?_append, hm, get?_cons, if_pos rfl]; rfl
  · rw [if_neg hkey]
    cases get? m k with
    | some b => rfl
    | none => rw [get?_append, get?_cons, if_neg hkey, get?_nil, Option.or_none]

/-- A value written only if it is new does not matter where another one is written at once. -/
theorem insert_insertIfNew (m : Keyed α) (k : String) (a b : α) :
    insert (insertIfNew m k a) k b = insert m k b := by
  cases hm : get? m k with
  | some c => rw [insertIfNew_get? hm]
  | none =>
      have hnew : insertIfNew m k a = insert m k a := by
        rw [insert_new (not_mem_keys hm), insertIfNew, hm]
      rw [hnew, insert_insert]

theorem mem_of_get? {m : Keyed α} {key : String} {a : α} (h : get? m key = some a) :
    (key, a) ∈ m := by
  induction m with
  | nil => exact nomatch h
  | cons e m ih =>
      obtain ⟨k, b⟩ := e
      rw [get?_cons] at h
      by_cases hk : key = k
      · rw [if_pos hk] at h
        cases h
        rw [hk]
        exact List.mem_cons_self
      · rw [if_neg hk] at h
        exact List.mem_cons_of_mem _ (ih h)

/-- There is nothing under a key that no entry has. -/
theorem get?_eq_none {m : Keyed α} {key : String} (h : key ∉ keys m) : get? m key = none := by
  cases hget : get? m key with
  | none => rfl
  | some a => exact absurd (List.mem_map_of_mem (mem_of_get? hget)) h

/-- The keys are those under which something is found. -/
theorem mem_keys_iff {m : Keyed α} {key : String} : key ∈ keys m ↔ (get? m key).isSome = true := by
  cases hget : get? m key with
  | none => exact iff_of_false (not_mem_keys hget) Bool.false_ne_true
  | some a => exact iff_of_true (List.mem_map_of_mem (mem_of_get? hget)) rfl

/-- An entry is found under its key, if it is the only one with that key. -/
theorem get?_of_mem {m : Keyed α} (h : (keys m).Nodup) {key : String} {a : α} (hmem : (key, a) ∈ m) :
    get? m key = some a := by
  induction m with
  | nil => exact nomatch hmem
  | cons e m ih =>
      obtain ⟨k, b⟩ := e
      obtain ⟨hk, hm⟩ := List.nodup_cons.mp h
      rw [get?_cons]
      rcases List.mem_cons.mp hmem with heq | hlater
      · cases heq
        exact if_pos rfl
      · have hne : key ≠ k := fun heq => hk (heq ▸ List.mem_map.mpr ⟨_, hlater, rfl⟩)
        rw [if_neg hne, ih hm hlater]

/-- A written entry, or one that was there. -/
theorem mem_insert {m : Keyed α} {key : String} {a : α} {e : String × α} (h : e ∈ insert m key a) :
    e = (key, a) ∨ e ∈ m := by
  induction m with
  | nil => exact Or.inl (List.mem_singleton.mp h)
  | cons d m ih =>
      obtain ⟨k, b⟩ := d
      by_cases hk : k = key
      · subst hk
        rw [insert_cons_self] at h
        rcases List.mem_cons.mp h with he | he
        · exact Or.inl he
        · exact Or.inr (List.mem_cons_of_mem _ he)
      · rw [insert_cons_ne hk] at h
        rcases List.mem_cons.mp h with he | he
        · exact Or.inr (he ▸ List.mem_cons_self)
        · exact (ih he).imp_right (List.mem_cons_of_mem _)

/-- Writing adds no key but a new one, at the end. -/
theorem keys_insert (m : Keyed α) (key : String) (a : α) :
    keys (insert m key a) = if key ∈ keys m then keys m else keys m ++ [key] := by
  by_cases hmem : key ∈ keys m
  · rw [if_pos hmem]
    induction m with
    | nil => exact nomatch hmem
    | cons e m ih =>
        obtain ⟨k, b⟩ := e
        by_cases hk : k = key
        · rw [hk, insert_cons_self]
          rfl
        · rw [insert_cons_ne hk]
          exact congrArg (k :: ·) (ih ((List.mem_cons.mp hmem).resolve_left (Ne.symm hk)))
  · rw [if_neg hmem, insert_new hmem]
    exact List.map_append

/-- Writing under a key changes nothing for a test that no entry under this key passes. -/
theorem keep_insert {p : String → α → Bool} {key : String} (h : ∀ b, p key b = false)
    (m : Keyed α) (a : α) : keep p (insert m key a) = keep p m := by
  have hdropped : ∀ b n, keep p ((key, b) :: n) = keep p n := by
    intro b n
    rw [keep_cons, h b, if_neg Bool.false_ne_true]
  induction m with
  | nil => exact hdropped a []
  | cons e m ih =>
      obtain ⟨k, b⟩ := e
      by_cases hk : k = key
      · rw [hk, insert_cons_self, hdropped, hdropped]
      · rw [insert_cons_ne hk, keep_cons, keep_cons, ih]

/-- Entries written one after the other into others, all under keys of their own, follow them. -/
theorem foldl_insert {m es : Keyed α} (h : (keys (m ++ es)).Nodup) :
    es.foldl (fun m e => insert m e.1 e.2) m = m ++ es := by
  induction es generalizing m with
  | nil => exact (List.append_nil m).symm
  | cons e es ih =>
      obtain ⟨k, a⟩ := e
      have happend : m ++ (k, a) :: es = (m ++ [(k, a)]) ++ es := by
        rw [List.append_assoc]
        rfl
      have hk : k ∉ keys m := by
        intro hmem
        rw [keys, List.map_append] at h
        exact (List.nodup_append.mp h).2.2 k hmem k List.mem_cons_self rfl
      rw [List.foldl_cons, insert_new hk, ih (happend ▸ h), happend]

/-- Entries under keys of their own stay as they are. -/
theorem ofEntries_eq {m : Keyed α} (h : (keys m).Nodup) : ofEntries m = m :=
  foldl_insert (m := []) h

theorem insert_ne_nil (m : Keyed α) (key : String) (a : α) : insert m key a ≠ [] := by
  intro h
  have hget := get?_insert m key key a
  rw [h, if_pos rfl] at hget
  exact nomatch hget

/-- Where there are entries, there is a first one. -/
theorem ofEntries_eq_nil {es : List (String × α)} : ofEntries es = [] ↔ es = [] := by
  constructor
  · intro h
    cases hlast : es.reverse with
    | nil => exact List.reverse_eq_nil_iff.mp hlast
    | cons e before =>
        rw [← es.reverse_reverse, hlast, List.reverse_cons, ofEntries, List.foldl_append] at h
        exact absurd h (insert_ne_nil _ _ _)
  · rintro rfl
    rfl

/-- Entries written into others leave what is under a key that they do not have. -/
theorem get?_foldl_insert {key : String} {es : List (String × α)} (h : key ∉ keys es) (m : Keyed α) :
    get? (es.foldl (fun m e => insert m e.1 e.2) m) key = get? m key := by
  induction es generalizing m with
  | nil => rfl
  | cons e es ih =>
      obtain ⟨k, a⟩ := e
      have hk : key ≠ k := fun heq => h (heq ▸ List.mem_cons_self)
      rw [List.foldl_cons, ih (fun hmem => h (List.mem_cons_of_mem k hmem)), get?_insert, if_neg hk]

/-- Of the entries under one key the last one is kept. -/
theorem get?_ofEntries_last {before after : List (String × α)} {key : String} (a : α)
    (h : key ∉ keys after) : get? (ofEntries (before ++ (key, a) :: after)) key = some a := by
  rw [ofEntries, List.foldl_append, List.foldl_cons, get?_foldl_insert h, get?_insert, if_pos rfl]

/-- Writing entries into others leaves the first key first. -/
theorem head?_foldl_insert (e : String × α) (m : Keyed α) (es : List (String × α)) :
    ((es.foldl (fun m e => insert m e.1 e.2) (e :: m)).head?).map Prod.fst = some e.1 := by
  induction es generalizing e m with
  | nil => rfl
  | cons d es ih =>
      obtain ⟨k, b⟩ := e
      rw [List.foldl_cons]
      by_cases hk : k = d.1
      · rw [← hk, insert_cons_self]
        exact ih (k, d.2) m
      · rw [insert_cons_ne hk]
        exact ih (k, b) _

/-- The first entry stays under its key in front. -/
theorem head?_ofEntries (es : List (String × α)) :
    ((ofEntries es).head?).map Prod.fst = es.head?.map Prod.fst := by
  cases es with
  | nil => rfl
  | cons e es => exact head?_foldl_insert e [] es

/-- The value in front of a map of entries is that of the last entry under the first key. -/
theorem head?_ofEntries_eq {es before after : List (String × α)} {key : String} {a : α}
    (hsplit : es = before ++ (key, a) :: after) (hfirst : es.head?.map Prod.fst = some key)
    (h : key ∉ keys after) : (ofEntries es).head? = some (key, a) := by
  have hget : get? (ofEntries es) key = some a := by
    rw [hsplit]
    exact get?_ofEntries_last a h
  have hhead := head?_ofEntries es
  rw [hfirst] at hhead
  cases hes : ofEntries es with
  | nil =>
      rw [hes] at hget
      exact nomatch hget
  | cons e m =>
      obtain ⟨k, b⟩ := e
      rw [hes] at hget hhead
      cases hhead
      rw [get?_cons, if_pos rfl] at hget
      cases hget
      rfl

/-- A function of the values leaves the keys as they are. -/
theorem keys_map {β : Type} (m : Keyed α) (f : α → β) : keys (m.map fun e => (e.1, f e.2)) = keys m :=
  List.map_map

theorem get?_map {β : Type} (m : Keyed α) (f : α → β) (key : String) :
    get? (m.map fun e => (e.1, f e.2)) key = (get? m key).map f := by
  induction m with
  | nil => rfl
  | cons e m ih =>
      obtain ⟨k, a⟩ := e
      rw [List.map_cons, get?_cons, get?_cons, ih]
      split <;> rfl

/-- Entries each under a key of its own, with values of a kind. -/
structure Each (P : α → Prop) (m : Keyed α) : Prop where
  nodup : (keys m).Nodup
  all   : ∀ e ∈ m, P e.2

namespace Each

variable {P : α → Prop} {m : Keyed α}

theorem nil : Each P [] :=
  ⟨List.nodup_nil, List.forall_mem_nil _⟩

theorem get? (h : Each P m) {key : String} {a : α} (hget : m.get? key = some a) : P a :=
  h.all (key, a) (mem_of_get? hget)

theorem insert (h : Each P m) {key : String} {a : α} (ha : P a) : Each P (m.insert key a) := by
  constructor
  · rw [keys_insert]
    split
    · exact h.nodup
    · next hmem =>
        refine List.nodup_append.mpr ⟨h.nodup, List.pairwise_singleton _ _, fun k hk l hl heq => ?_⟩
        rw [heq, List.mem_singleton.mp hl] at hk
        exact hmem hk
  · intro e he
    rcases mem_insert he with rfl | hmem
    · exact ha
    · exact h.all e hmem

theorem keep (h : Each P m) (p : String → α → Bool) : Each P (m.keep p) := by
  refine ⟨?_, fun e he => h.all e (List.mem_filter.mp he).1⟩
  exact h.nodup.sublist (List.Sublist.map _ List.filter_sublist)

theorem ofEntries {es : List (String × α)} (h : ∀ e ∈ es, P e.2) : Each P (Keyed.ofEntries es) := by
  suffices hfold : ∀ m, Each P m → Each P (es.foldl (fun m e => Keyed.insert m e.1 e.2) m) from
    hfold [] nil
  induction es with
  | nil => exact fun m hm => hm
  | cons e es ih =>
      intro m hm
      exact ih (fun e' he' => h e' (List.mem_cons_of_mem e he')) _
        (hm.insert (h e List.mem_cons_self))

end Each

/-- Writes under different keys commute up to the order of the entries. -/
theorem insert_insert_perm {k l : String} (h : k ≠ l) (m : Keyed α) (a b : α) :
    (insert (insert m k a) l b).Perm (insert (insert m l b) k a) := by
  induction m with
  | nil =>
      show ((insert [(k, a)] l b : Keyed α)).Perm (insert [(l, b)] k a)
      rw [insert_cons_ne h, insert_cons_ne h.symm]
      exact .swap _ _ []
  | cons e m ih =>
      obtain ⟨k', c⟩ := e
      by_cases hk : k' = k
      · subst hk
        rw [insert_cons_self, insert_cons_ne h, insert_cons_ne h, insert_cons_self]
      · by_cases hl : k' = l
        · subst hl
          rw [insert_cons_ne hk, insert_cons_self, insert_cons_self, insert_cons_ne hk]
        · rw [insert_cons_ne hk, insert_cons_ne hl, insert_cons_ne hl, insert_cons_ne hk]
          exact ih.cons _

end Keyed

end LessonVariants
