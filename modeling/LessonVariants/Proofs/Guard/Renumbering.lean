import LessonVariants.Proofs.Guard.Dependence

/-! # Guards under a change of numbers

    Numbers of different kinds may have one reading, as the integer zero and the double.  A function
    on numbers is harmless if it keeps their readings, keeps those that can be written and those that
    cannot apart, and respects negatives (`Harmless`).  Values
    that it makes equal, number by number, are told apart by no guard (`Harmless.unseen`), and a
    path leads to such values from such values (`pathAlike_of_renumbered`). -/

namespace LessonVariants

variable {ρ : Type}

/-! ## Changing the numbers of data and values -/

namespace Data

variable (g : ρ → ρ)

mutual

/-- Data with its numbers changed. -/
def mapNumbers : Data ρ → Data ρ
  | .null     => .null
  | .bool b   => .bool b
  | .number n => .number (g n)
  | .text s   => .text s
  | .list xs  => .list (mapItems xs)
  | .object m => .object (mapEntries m)

/-- Items with their numbers changed. -/
def mapItems : List (Data ρ) → List (Data ρ)
  | []      => []
  | x :: xs => mapNumbers x :: mapItems xs

/-- Entries with the numbers of their values changed. -/
def mapEntries : List (String × Data ρ) → List (String × Data ρ)
  | []          => []
  | (k, x) :: m => (k, mapNumbers x) :: mapEntries m

end

end Data

namespace Value

section

variable (g : ρ → ρ)

mutual

/-- A value with its numbers changed. -/
def mapNumbers : Value ρ → Value ρ
  | null        => null
  | bool b      => bool b
  | number n    => number (g n)
  | text s      => text s
  | list xs     => list (mapItems xs)
  | object m    => object (mapEntries m)
  | record k fs => record k (mapFields fs)
  | test        => test

/-- Items with their numbers changed. -/
def mapItems : List (Value ρ) → List (Value ρ)
  | []      => []
  | x :: xs => mapNumbers x :: mapItems xs

/-- Entries with the numbers of their values changed. -/
def mapEntries : List (String × Value ρ) → List (String × Value ρ)
  | []          => []
  | (k, x) :: m => (k, mapNumbers x) :: mapEntries m

/-- Fields with the numbers of their values changed. -/
def mapFields : List (FieldName × Value ρ) → List (FieldName × Value ρ)
  | []           => []
  | (f, x) :: fs => (f, mapNumbers x) :: mapFields fs

end

end

variable {g : ρ → ρ}

theorem mapItems_eq_map (xs : List (Value ρ)) : mapItems g xs = xs.map (mapNumbers g) := by
  induction xs with
  | nil => rfl
  | cons x xs ih => exact congrArg (mapNumbers g x :: ·) ih

theorem length_mapItems (xs : List (Value ρ)) : (mapItems g xs).length = xs.length := by
  rw [mapItems_eq_map, List.length_map]

theorem mapEntries_eq_map (m : List (String × Value ρ)) :
    mapEntries g m = m.map fun e => (e.1, e.2.mapNumbers g) := by
  induction m with
  | nil => rfl
  | cons e m ih => exact congrArg ((e.1, e.2.mapNumbers g) :: ·) ih

theorem length_mapEntries (m : List (String × Value ρ)) : (mapEntries g m).length = m.length := by
  rw [mapEntries_eq_map, List.length_map]

theorem mapFields_eq_map (fs : List (FieldName × Value ρ)) :
    mapFields g fs = fs.map fun e => (e.1, e.2.mapNumbers g) := by
  induction fs with
  | nil => rfl
  | cons e fs ih => exact congrArg ((e.1, e.2.mapNumbers g) :: ·) ih

theorem get?_mapEntries (m : List (String × Value ρ)) (key : String) :
    Keyed.get? (mapEntries g m) key = (Keyed.get? m key).map (mapNumbers g) := by
  induction m with
  | nil => rfl
  | cons e m ih =>
      obtain ⟨k, x⟩ := e
      rw [mapEntries, Keyed.get?_cons, Keyed.get?_cons, ih]
      split <;> rfl

theorem find?_mapFields (p : FieldName → Bool) (fs : List (FieldName × Value ρ)) :
    (mapFields g fs).find? (fun f => p f.1)
      = (fs.find? fun f => p f.1).map fun f => (f.1, f.2.mapNumbers g) := by
  rw [mapFields_eq_map, List.find?_map]
  rfl

theorem isOmitted_mapNumbers (v : Value ρ) : (v.mapNumbers g).isOmitted = v.isOmitted := by
  cases v <;> rfl

theorem isContainer_mapNumbers (v : Value ρ) : (v.mapNumbers g).isContainer = v.isContainer := by
  cases v <;> rfl

mutual

/-- Numbers may be changed before or after writing. -/
theorem toData_mapNumbers (v : Value ρ) : (v.mapNumbers g).toData = v.toData.mapNumbers g :=
  match v with
  | null        => rfl
  | bool _      => rfl
  | number _    => rfl
  | text _      => rfl
  | list xs     => congrArg Data.list (toItems_mapItems xs)
  | object m    => congrArg Data.object (toEntries_mapEntries m)
  | record _ fs => congrArg Data.object (toFields_mapFields fs)
  | test        => rfl

theorem toItems_mapItems (xs : List (Value ρ)) :
    toItems (mapItems g xs) = Data.mapItems g (toItems xs) :=
  match xs with
  | []      => rfl
  | x :: xs => by rw [mapItems, toItems, toItems, Data.mapItems, toData_mapNumbers x,
      toItems_mapItems xs]

theorem toEntries_mapEntries (m : List (String × Value ρ)) :
    toEntries (mapEntries g m) = Data.mapEntries g (toEntries m) :=
  match m with
  | []          => rfl
  | (k, x) :: m => by rw [mapEntries, toEntries, toEntries, Data.mapEntries, toData_mapNumbers x,
      toEntries_mapEntries m]

theorem toFields_mapFields (fs : List (FieldName × Value ρ)) :
    toFields (mapFields g fs) = Data.mapEntries g (toFields fs) :=
  match fs with
  | []           => rfl
  | (f, x) :: fs => by
      rw [mapFields, toFields, toFields, isOmitted_mapNumbers, toFields_mapFields fs]
      split
      · rfl
      · rw [Data.mapEntries, toData_mapNumbers x]

end

/-! ## What keeps its readings is not told apart -/

variable [Scalar ρ]

/-- Whether a change of numbers keeps their readings. -/
def KeepsReadings (g : ρ → ρ) : Prop :=
  ∀ n, Scalar.reading (g n) = Scalar.reading n

theorem isTrue_mapNumbers (hg : KeepsReadings g) (v : Value ρ) :
    (v.mapNumbers g).isTrue = v.isTrue := by
  cases v with
  | number n =>
      show (!Scalar.isZero (g n)) = !Scalar.isZero n
      rw [Scalar.isZero, Scalar.isZero, hg]
  | _ => rfl

theorem compare?_map (hg : KeepsReadings g) (a b : ρ) :
    Scalar.compare? (g a) (g b) = Scalar.compare? a b := by
  rw [Scalar.compare?, Scalar.compare?, hg, hg]

theorem ordering?_mapNumbers (hg : KeepsReadings g) (v w : Value ρ) :
    (v.mapNumbers g).ordering? (w.mapNumbers g) = v.ordering? w := by
  cases v with
  | number a =>
      cases w with
      | number b => exact congrArg some (compare?_map hg a b)
      | _ => rfl
  | text s => cases w <;> rfl
  | _ => rfl

theorem eq_map_left (hg : KeepsReadings g) (a b : ρ) : Scalar.eq (g a) b = Scalar.eq a b := by
  rw [Scalar.eq, Scalar.eq, Scalar.compare?, Scalar.compare?, hg]

theorem eq_map_right (hg : KeepsReadings g) (a b : ρ) : Scalar.eq a (g b) = Scalar.eq a b := by
  rw [Scalar.eq, Scalar.eq, Scalar.compare?, Scalar.compare?, hg]

mutual

-- Containers are compared part by part, the parts of the first leading.

/-- Equality inside containers is by readings. -/
theorem same_mapNumbers (hg : KeepsReadings g) (v w : Value ρ) :
    same (v.mapNumbers g) (w.mapNumbers g) = same v w :=
  match v with
  | null        => by cases w <;> simp only [mapNumbers, same]
  | test        => by cases w <;> simp only [mapNumbers, same]
  | text s      => by cases w <;> simp only [mapNumbers, same]
  | bool a      => by cases w <;> simp only [mapNumbers, same, eq_map_right hg]
  | number a    => by cases w <;> simp only [mapNumbers, same, eq_map_left hg, eq_map_right hg]
  | list xs     => by cases w <;> simp only [mapNumbers, same, sameItems_mapItems hg xs]
  | object m    => by
      cases w <;> simp only [mapNumbers, same, length_mapEntries, sameEntries_mapEntries hg m]
  | record k fs => by cases w <;> simp only [mapNumbers, same, sameFields_mapFields hg fs]

theorem sameItems_mapItems (hg : KeepsReadings g) (xs ys : List (Value ρ)) :
    sameItems (mapItems g xs) (mapItems g ys) = sameItems xs ys :=
  match xs with
  | []      => by cases ys <;> simp only [mapItems, sameItems]
  | x :: xs => by
      cases ys with
      | nil => simp only [mapItems, sameItems]
      | cons y ys =>
          simp only [mapItems, sameItems, same_mapNumbers hg x y, sameItems_mapItems hg xs ys]

theorem sameEntries_mapEntries (hg : KeepsReadings g) (m n : List (String × Value ρ)) :
    sameEntries (mapEntries g m) (mapEntries g n) = sameEntries m n :=
  match m with
  | []          => by simp only [mapEntries, sameEntries]
  | (k, x) :: m => by
      rw [mapEntries, sameEntries, sameEntries, sameEntries_mapEntries hg m n, get?_mapEntries]
      cases Keyed.get? n k with
      | none => rfl
      | some y => exact congrArg (· && sameEntries m n) (same_mapNumbers hg x y)

theorem sameFields_mapFields (hg : KeepsReadings g) (fs gs : List (FieldName × Value ρ)) :
    sameFields (mapFields g fs) (mapFields g gs) = sameFields fs gs :=
  match fs with
  | []           => by cases gs <;> simp only [mapFields, sameFields]
  | (_, x) :: fs => by
      cases gs with
      | nil => simp only [mapFields, sameFields]
      | cons e gs =>
          obtain ⟨f, y⟩ := e
          simp only [mapFields, sameFields, same_mapNumbers hg x y, sameFields_mapFields hg fs gs]

end

/-- Equality is by readings. -/
theorem equals_mapNumbers (hg : KeepsReadings g) (v w : Value ρ) :
    (v.mapNumbers g).equals (w.mapNumbers g) = v.equals w := by
  have hsame := same_mapNumbers hg v w
  cases v with
  | bool a => cases w <;> rfl
  | number a =>
      cases w with
      | number b => exact (eq_map_left hg a (g b)).trans (eq_map_right hg a b)
      | bool b => rfl
      | _ => exact hsame
  | _ =>
      cases w with
      | bool b => rfl
      | _ => exact hsame

mutual

/-- Equality of values with their numbers changed goes equally deep. -/
theorem sameLevels_mapNumbers (hg : KeepsReadings g) (v w : Value ρ) :
    sameLevels (v.mapNumbers g) (w.mapNumbers g) = sameLevels v w :=
  match v with
  | null        => by cases w <;> simp only [mapNumbers, sameLevels]
  | test        => by cases w <;> simp only [mapNumbers, sameLevels]
  | text s      => by cases w <;> simp only [mapNumbers, sameLevels]
  | bool a      => by cases w <;> simp only [mapNumbers, sameLevels]
  | number a    => by cases w <;> simp only [mapNumbers, sameLevels]
  | list xs     => by
      cases w <;> simp only [mapNumbers, sameLevels, length_mapItems, itemsLevels_mapItems hg xs]
  | object m    => by
      cases w <;> simp only [mapNumbers, sameLevels, length_mapEntries, entriesLevels_mapEntries hg m]
  | record k fs => by cases w <;> simp only [mapNumbers, sameLevels, fieldsLevels_mapFields hg fs]

theorem itemsLevels_mapItems (hg : KeepsReadings g) (xs ys : List (Value ρ)) :
    itemsLevels (mapItems g xs) (mapItems g ys) = itemsLevels xs ys :=
  match xs with
  | []      => by cases ys <;> simp only [mapItems, itemsLevels]
  | x :: xs => by
      cases ys with
      | nil => simp only [mapItems, itemsLevels]
      | cons y ys =>
          simp only [mapItems, itemsLevels, sameLevels_mapNumbers hg x y, same_mapNumbers hg x y,
            itemsLevels_mapItems hg xs ys]

theorem entriesLevels_mapEntries (hg : KeepsReadings g) (m n : List (String × Value ρ)) :
    entriesLevels (mapEntries g m) (mapEntries g n) = entriesLevels m n :=
  match m with
  | []          => by simp only [mapEntries, entriesLevels]
  | (k, x) :: m => by
      rw [mapEntries, entriesLevels, entriesLevels, entriesLevels_mapEntries hg m n, get?_mapEntries]
      cases Keyed.get? n k with
      | none => rfl
      | some y =>
          simp only [Option.map_some, sameLevels_mapNumbers hg x y, same_mapNumbers hg x y]

theorem fieldsLevels_mapFields (hg : KeepsReadings g) (fs gs : List (FieldName × Value ρ)) :
    fieldsLevels (mapFields g fs) (mapFields g gs) = fieldsLevels fs gs :=
  match fs with
  | []           => by cases gs <;> simp only [mapFields, fieldsLevels]
  | (_, x) :: fs => by
      cases gs with
      | nil => simp only [mapFields, fieldsLevels]
      | cons e gs =>
          obtain ⟨f, y⟩ := e
          simp only [mapFields, fieldsLevels, sameLevels_mapNumbers hg x y, same_mapNumbers hg x y,
            fieldsLevels_mapFields hg fs gs]

end

/-- Whether a change of numbers keeps those that can be written and those that cannot apart. -/
def KeepsTexts (g : ρ → ρ) : Prop :=
  ∀ n, Scalar.hasText (g n) = Scalar.hasText n

mutual

/-- The same keeps a value from being shown after such a change. -/
theorem obstacle?_mapNumbers (hg : KeepsTexts g) (v : Value ρ) (d : Nat) :
    obstacle? (v.mapNumbers g) d = obstacle? v d :=
  match v with
  | null        => rfl
  | bool _      => rfl
  | text _      => rfl
  | test        => rfl
  | number n    => by simp only [mapNumbers, obstacle?, hg n]
  | list xs     => by
      cases d with
      | zero => rfl
      | succ d => simp only [mapNumbers, obstacle?, itemsObstacle?_mapItems hg xs d]
  | object m    => by
      cases d with
      | zero => rfl
      | succ d => simp only [mapNumbers, obstacle?, entriesObstacle?_mapEntries hg m d]
  | record _ fs => by
      cases d with
      | zero => rfl
      | succ d => simp only [mapNumbers, obstacle?, fieldsObstacle?_mapFields hg fs d]

theorem itemsObstacle?_mapItems (hg : KeepsTexts g) (xs : List (Value ρ)) (d : Nat) :
    itemsObstacle? (mapItems g xs) d = itemsObstacle? xs d :=
  match xs with
  | []      => rfl
  | x :: xs => by
      simp only [mapItems, itemsObstacle?, obstacle?_mapNumbers hg x d,
        itemsObstacle?_mapItems hg xs d]

theorem entriesObstacle?_mapEntries (hg : KeepsTexts g) (m : List (String × Value ρ)) (d : Nat) :
    entriesObstacle? (mapEntries g m) d = entriesObstacle? m d :=
  match m with
  | []          => rfl
  | (_, x) :: m => by
      simp only [mapEntries, entriesObstacle?, obstacle?_mapNumbers hg x d,
        entriesObstacle?_mapEntries hg m d]

theorem fieldsObstacle?_mapFields (hg : KeepsTexts g) (fs : List (FieldName × Value ρ)) (d : Nat) :
    fieldsObstacle? (mapFields g fs) d = fieldsObstacle? fs d :=
  match fs with
  | []           => rfl
  | (_, x) :: fs => by
      simp only [mapFields, fieldsObstacle?, obstacle?_mapNumbers hg x d,
        fieldsObstacle?_mapFields hg fs d]

end

/-- Values that a change of numbers makes equal. -/
def Renumbered (g : ρ → ρ) (v w : Value ρ) : Prop :=
  v.mapNumbers g = w.mapNumbers g

end Value

open Value

variable [Scalar ρ]

/-- A change of numbers that keeps their readings and whether they can be written, and that makes the
    negatives of numbers equal where it makes the numbers equal. -/
structure Harmless (g : ρ → ρ) : Prop where
  readings : KeepsReadings g
  texts    : KeepsTexts g
  negate   : ∀ {m n}, g m = g n → g (-m) = g (-n)

variable {g : ρ → ρ} {v w : Value ρ}

/-- **Guards do not see through a harmless change of numbers.** -/
theorem Harmless.unseen (hg : Harmless g) : Unseen (Renumbered g) where
  refl _ := rfl
  isTrue {v w} h := by
    rw [← isTrue_mapNumbers hg.readings v, h, isTrue_mapNumbers hg.readings]
  isContainer {v w} h := by
    rw [← isContainer_mapNumbers v, h, isContainer_mapNumbers]
  equals {v w v' w'} h h' := by
    rw [← equals_mapNumbers hg.readings v v', h, h', equals_mapNumbers hg.readings]
  sameLevels {v w v' w'} h h' := by
    rw [← sameLevels_mapNumbers hg.readings v v', h, h', sameLevels_mapNumbers hg.readings]
  obstacle? {v w} h d := by
    rw [← obstacle?_mapNumbers hg.texts v d, h, obstacle?_mapNumbers hg.texts]
  ordering? {v w v' w'} h h' := by
    rw [← ordering?_mapNumbers hg.readings v v', h, h', ordering?_mapNumbers hg.readings]
  negate {v w} h := by
    cases v with
    | number m =>
        cases w with
        | number n =>
            exact Or.inl ⟨m, n, rfl, rfl, congrArg number (hg.negate (number.inj h))⟩
        | _ => exact nomatch h
    | _ =>
        cases w with
        | number n => exact nomatch h
        | _ => exact Or.inr ⟨(fun _ h => nomatch h), fun _ h => nomatch h⟩

/-! ## Paths -/

omit [Scalar ρ] in
theorem item?_map (f : Value ρ → Value ρ) (xs : List (Value ρ)) (i : Int) :
    item? (xs.map f) i = (item? xs i).map f := by
  have hposition : position (xs.map f) i = position xs i := by
    rw [position, position, List.length_map]
  rw [item?, item?, hposition, List.getElem?_map]
  split <;> rfl

omit [Scalar ρ] in
/-- Fields that match are found by the same names, and have values that match. -/
theorem find?_of_mapFields_eq {fs gs : List (FieldName × Value ρ)}
    (h : mapFields g fs = mapFields g gs) (name : String) :
    (fs.find? fun f => f.1.answersTo name).map (fun f => (f.1, f.2.mapNumbers g))
      = (gs.find? fun f => f.1.answersTo name).map fun f => (f.1, f.2.mapNumbers g) := by
  rw [← find?_mapFields (·.answersTo name) fs, h, find?_mapFields (·.answersTo name) gs]

/-- Two options whose values match, or that are both nothing. -/
theorem option_cases {α β : Type} {f : α → β} {o o' : Option α} (h : o.map f = o'.map f) :
    (o = none ∧ o' = none) ∨ ∃ a a', o = some a ∧ o' = some a' ∧ f a = f a' := by
  cases o with
  | none =>
      cases o' with
      | none => exact Or.inl ⟨rfl, rfl⟩
      | some a' => exact nomatch h
  | some a =>
      cases o' with
      | none => exact nomatch h
      | some a' => exact Or.inr ⟨a, a', rfl, rfl, Option.some.inj h⟩

/-- A step into lists whose items match leads to items that match. -/
theorem member_of_mapItems_eq {xs ys : List (Value ρ)} (h : mapItems g xs = mapItems g ys)
    (walked : Walked ρ) (key : Value ρ) :
    Alike (Renumbered g) ((list xs).member walked key) ((list ys).member walked key) := by
  rw [mapItems_eq_map, mapItems_eq_map] at h
  cases key with
  | number n =>
      simp only [Value.member]
      cases Scalar.reading n with
      | finite q =>
          have hitem := congrArg (item? · (q.num.tdiv q.den)) h
          rw [item?_map, item?_map] at hitem
          dsimp only
          rcases option_cases hitem with ⟨hx, hy⟩ | ⟨x, y, hx, hy, hxy⟩
          · rw [hx, hy]
            exact .error _
          · rw [hx, hy]
            exact .ok hxy
      | _ => exact .error _
  | _ => exact .mild rfl rfl

/-- A step into objects whose entries match leads to entries that match. -/
theorem member_of_mapEntries_eq {m n : List (String × Value ρ)}
    (h : mapEntries g m = mapEntries g n) (walked : Walked ρ) (key : Value ρ) :
    Alike (Renumbered g) ((object m).member walked key) ((object n).member walked key) := by
  cases key with
  | text s =>
      have hentry := congrArg (Keyed.get? · s) h
      rw [get?_mapEntries, get?_mapEntries] at hentry
      simp only [Value.member]
      rcases option_cases hentry with ⟨hx, hy⟩ | ⟨x, y, hx, hy, hxy⟩
      · rw [hx, hy]
        exact .error _
      · rw [hx, hy]
        exact .ok hxy
  | list _ => exact .error _
  | object _ => exact .error _
  | record _ _ => exact .error _
  | _ => exact .mild rfl rfl

/-- A step into records whose fields match leads to fields that match. -/
theorem member_of_mapFields_eq {fs gs : List (FieldName × Value ρ)}
    (h : mapFields g fs = mapFields g gs) (k l : String) (walked : Walked ρ)
    (key : Value ρ) :
    Alike (Renumbered g) ((record k fs).member walked key) ((record l gs).member walked key) := by
  cases key with
  | text s =>
      have hfield := find?_of_mapFields_eq h s
      simp only [Value.member]
      rcases option_cases hfield with ⟨hx, hy⟩ | ⟨x, y, hx, hy, hxy⟩
      · rw [hx, hy]
        exact .error _
      · rw [hx, hy]
        exact .ok (Prod.mk.inj hxy).2
  | _ => exact .mild rfl rfl

/-- A step into values that match leads to values that match. -/
theorem Value.Renumbered.member (h : Renumbered g v w) (walked : Walked ρ) (key : Value ρ) :
    Alike (Renumbered g) (v.member walked key) (w.member walked key) := by
  cases v with
  | list xs =>
      cases w with
      | list ys => exact member_of_mapItems_eq (list.inj h) walked key
      | _ => exact nomatch h
  | object m =>
      cases w with
      | object n => exact member_of_mapEntries_eq (object.inj h) walked key
      | _ => exact nomatch h
  | record k fs =>
      cases w with
      | record l gs => exact member_of_mapFields_eq (record.inj h).2 k l walked key
      | _ => exact nomatch h
  | _ =>
      cases w with
      | list ys => exact nomatch h
      | object n => exact nomatch h
      | record l gs => exact nomatch h
      | _ => exact .mild rfl rfl

/-- A step into values that match leads to one place. -/
theorem Value.Renumbered.landing? (h : Renumbered g v w) (key : Value ρ) :
    v.landing? key = w.landing? key := by
  cases v with
  | list xs =>
      cases w with
      | list ys =>
          have hitems : mapItems g xs = mapItems g ys := list.inj h
          rw [mapItems_eq_map, mapItems_eq_map] at hitems
          have hlength := congrArg List.length hitems
          rw [List.length_map, List.length_map] at hlength
          cases key with
          | number n => simp only [Value.landing?, position, hlength]
          | _ => rfl
      | _ => exact nomatch h
  | object m =>
      cases w with
      | object n => cases key <;> rfl
      | _ => exact nomatch h
  | record k fs =>
      cases w with
      | record l gs =>
          cases key with
          | text s =>
              have hfield := find?_of_mapFields_eq (record.inj h).2 s
              have hname := congrArg (Option.map fun f : FieldName × Value ρ =>
                (Sum.inl f.1.internal : String ⊕ Int)) hfield
              rw [Option.map_map, Option.map_map] at hname
              exact hname
          | _ => rfl
      | _ => exact nomatch h
  | _ =>
      cases w with
      | list ys => exact nomatch h
      | object n => exact nomatch h
      | record l gs => exact nomatch h
      | _ => cases key <;> rfl

theorem Value.Renumbered.follow {keys : List (Value ρ)} :
    ∀ {v w : Value ρ}, Renumbered g v w → ∀ walked,
      Alike (Renumbered g) (v.follow walked keys) (w.follow walked keys) := by
  induction keys with
  | nil => exact fun h _ => .ok h
  | cons key keys ih =>
      intro v w h walked
      exact (h.member walked key).bind fun _ _ hnext => ih hnext _

theorem Value.Renumbered.place? {keys : List (Value ρ)} :
    ∀ {v w : Value ρ}, Renumbered g v w → v.place? keys = w.place? keys := by
  induction keys with
  | nil => exact fun _ => rfl
  | cons key keys ih =>
      intro v w h
      rw [Value.place?, Value.place?, h.landing? key]
      cases w.landing? key with
      | none => rfl
      | some step =>
          have hmember := h.member ⟨"", []⟩ key
          -- the rest of the way starts from values that match, or from nowhere in both
          dsimp only [bind, Option.bind]
          revert hmember
          generalize v.member ⟨"", []⟩ key = x
          generalize w.member ⟨"", []⟩ key = y
          rintro (hxy | e | _)
          · simp only [Except.toOption, ih hxy]
          · rfl
          · rfl

/-- **Where the roots match, every path comes to the same.** -/
theorem pathAlike_of_renumbered {scope scope' : Root → Value ρ}
    (h : ∀ r, Renumbered g (scope r) (scope' r)) (p : Root × List Segment) :
    PathAlike (Renumbered g) scope scope' p :=
  ⟨(h p.1).follow _, (h p.1).place?⟩

end LessonVariants
