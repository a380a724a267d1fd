import LessonVariants.Proofs.Guard.Scan
import Mathlib.Data.List.TakeWhile
import Mathlib.Data.Nat.Digits.Defs

/-! # The written forms of tokens

    A token is written as a number, a string, a name or an operator (`Written`).  The four classes
    are described by what their texts look like, and not by how a matcher goes through them.

    The lexeme at the beginning of a text is the longest one that any of the classes has there
    (`longest_iff`), and where none of them has one there is no lexeme (`munch?_eq_none`).  For this
    it does not matter that the matchers are tried one after the other. -/

namespace LessonVariants

/-! ## The classes -/

/-- Digits of any script, and their values. -/
def Digits (text : List Char) (ds : List Nat) : Prop :=
  text.map digitValue? = ds.map some

/-- The digits before a point and, if there is a point, those after it.  There is one at least. -/
inductive Mantissa : List Char → List Nat → Option (List Nat) → Prop where
  | whole {text : List Char} {ds : List Nat} : Digits text ds → ds ≠ [] → Mantissa text ds none
  | pointed {text more : List Char} {ds fs : List Nat} :
      Digits text ds → Digits more fs → ¬(ds = [] ∧ fs = []) →
      Mantissa (text ++ '.' :: more) ds (some fs)

/-- A sign, or none. -/
def IsSign (sign : List Char) : Prop :=
  sign = [] ∨ sign = ['+'] ∨ sign = ['-']

/-- A mark, an optional sign, and one digit at least. -/
inductive Exponent : List Char → Int → Prop where
  | mk {mark : Char} {sign text : List Char} {ds : List Nat} :
      mark = 'e' ∨ mark = 'E' → IsSign sign → Digits text ds → ds ≠ [] →
      Exponent (mark :: (sign ++ text)) (if sign = ['-'] then -(ofDigits ds : Int) else ofDigits ds)

/-- Digits alone are an integer, and with a point among them they are a decimal. -/
def Numeral.ofMantissa (ds : List Nat) : Option (List Nat) → Numeral
  | none    => .integer (ofDigits ds)
  | some fs => .decimal (.ofParts ds fs 0)

/-- The texts of numbers. -/
inductive NumberText : List Char → Numeral → Prop where
  | unscaled {text : List Char} {ds : List Nat} {fraction? : Option (List Nat)} :
      Mantissa text ds fraction? → NumberText text (.ofMantissa ds fraction?)
  | scaled {text more : List Char} {ds : List Nat} {fraction? : Option (List Nat)} {e : Int} :
      Mantissa text ds fraction? → Exponent more e →
      NumberText (text ++ more) (.decimal (.ofParts ds (fraction?.getD []) e))

/-- What may follow an opening quote up to the same quote: plain characters, and escaped ones that
    are no line feeds. -/
inductive StringText (quote : Char) : List Char → List Char → Prop where
  | close : StringText quote [quote] []
  | plain {c : Char} {text body : List Char} : c ≠ quote → c ≠ '\\' → StringText quote text body →
      StringText quote (c :: text) (c :: body)
  | escaped {c : Char} {text body : List Char} : c ≠ '\n' → StringText quote text body →
      StringText quote ('\\' :: c :: text) (unescape c :: body)

/-- The texts of tokens. -/
inductive Written : Token → List Char → Prop where
  | number {n : Numeral} {text : List Char} : NumberText text n → Written (.number n) text
  | string {quote : Char} {text body : List Char} : quote = '\'' ∨ quote = '"' →
      StringText quote text body → Written (.string (String.ofList body)) (quote :: text)
  | name {c : Char} {cs : List Char} : isNameStart c = true → (∀ d ∈ cs, isNamePart d = true) →
      Written (.name (String.ofList (c :: cs))) (c :: cs)
  | op (o : Op) : Written (.op o) o.text.toList

/-- The longest text of a token at the beginning of a text, and what remains. -/
def Longest (t : Token) (text rest : List Char) : Prop :=
  Written t text ∧
    ∀ t' text' rest', text ++ rest = text' ++ rest' → Written t' text' → text'.length ≤ text.length

/-! ## Lexemes of any size -/

/-- A number at the head of the text, with as many digits as there are. -/
def numberMunch? (cs : List Char) : Option Lexeme :=
  (mantissaPart cs).map fun (ds, fraction?) =>
    match exponentPart (cs.drop (mantissaSize ds fraction?)) with
    | none        => ⟨.number (.ofMantissa ds fraction?), mantissaSize ds fraction?⟩
    | some (n, e) =>
        ⟨.number (.decimal (.ofParts ds (fraction?.getD []) e)), mantissaSize ds fraction? + n⟩

/-- The lexeme at the head of the text, integers of too many digits among them. -/
def munch? (cs : List Char) : Option Lexeme :=
  (numberMunch? cs).or ((stringLexeme? cs).or ((nameLexeme? cs).or (opLexeme? cs)))

/-- An integer with more digits than may be read. -/
def Overlong (t : Token) (size : Nat) : Prop :=
  ∃ n, t = .number (.integer n) ∧ maxIntegerDigits < size

theorem not_overlong {t : Token} {size : Nat} (h : ∀ n, t ≠ .number (.integer n)) :
    ¬Overlong t size :=
  fun ⟨n, ht, _⟩ => h n ht

/-! ## Digits -/

theorem Digits.length {text : List Char} {ds : List Nat} (h : Digits text ds) :
    text.length = ds.length := by
  have hlen := congrArg List.length h
  rw [List.length_map, List.length_map] at hlen
  exact hlen

/-- The digits at the beginning of a text are some of its characters. -/
theorem spanDigits_digits (cs : List Char) : ∃ text,
    cs = text ++ (spanDigits digitValue? cs).2 ∧ Digits text (spanDigits digitValue? cs).1 := by
  induction cs with
  | nil => exact ⟨[], rfl, rfl⟩
  | cons c cs ih =>
      unfold spanDigits
      cases hc : digitValue? c with
      | none => exact ⟨[], rfl, rfl⟩
      | some d =>
          obtain ⟨text, hcs, hdigits⟩ := ih
          refine ⟨c :: text, congrArg (c :: ·) hcs, ?_⟩
          rw [Digits, List.map_cons, List.map_cons, hc, hdigits]

/-- Digits that stand before others are read with them. -/
theorem Digits.spanDigits_append {text : List Char} {ds : List Nat} (h : Digits text ds)
    (after : List Char) : spanDigits digitValue? (text ++ after)
      = (ds ++ (spanDigits digitValue? after).1, (spanDigits digitValue? after).2) := by
  induction text generalizing ds with
  | nil =>
      obtain rfl := List.map_eq_nil_iff.mp h.symm
      rfl
  | cons c cs ih =>
      obtain ⟨d, ds, rfl, hd, hds⟩ := List.map_eq_cons_iff.mp h.symm
      rw [List.cons_append, spanDigits, ← hd]
      dsimp only
      rw [ih hds.symm]
      rfl

/-- Digits are read up to where none follows. -/
theorem Digits.spanDigits_stop {text after : List Char} {ds : List Nat} (h : Digits text ds)
    (hafter : spanDigits digitValue? after = ([], after)) :
    spanDigits digitValue? (text ++ after) = (ds, after) := by
  rw [h.spanDigits_append, hafter, List.append_nil]

/-- What neither a digit nor a point begins. -/
def Undigited (cs : List Char) : Prop :=
  ∀ c ∈ cs.head?, digitValue? c = none ∧ c ≠ '.'

theorem undigited_nil : Undigited [] :=
  fun _ h => nomatch h

theorem undigited_cons {c : Char} (hc : digitValue? c = none) (hpoint : c ≠ '.') (cs : List Char) :
    Undigited (c :: cs) := by
  intro d hd
  obtain rfl := Option.some.inj hd
  exact ⟨hc, hpoint⟩

theorem Undigited.spanDigits_eq {cs : List Char} (h : Undigited cs) :
    spanDigits digitValue? cs = ([], cs) := by
  cases cs with
  | nil => rfl
  | cons c cs => rw [spanDigits, (h c rfl).1]

theorem Undigited.ne_point {cs : List Char} (h : Undigited cs) (r : List Char) : cs ≠ '.' :: r := by
  rintro rfl
  exact (h '.' rfl).2 rfl

/-! ## Numbers -/

theorem mantissaPart_sound {cs : List Char} {ds : List Nat} {fraction? : Option (List Nat)}
    (h : mantissaPart cs = some (ds, fraction?)) :
    ∃ text rest, cs = text ++ rest ∧ Mantissa text ds fraction? := by
  obtain ⟨text, hcs, hds⟩ := spanDigits_digits cs
  by_cases hpoint : ∃ r, (spanDigits digitValue? cs).2 = '.' :: r
  · obtain ⟨r, hr⟩ := hpoint
    obtain ⟨more, hmore, hfs⟩ := spanDigits_digits r
    rw [mantissaPart_point hr] at h
    split at h
    · exact nomatch h
    · next hne =>
        cases h
        refine ⟨text ++ '.' :: more, (spanDigits digitValue? r).2, ?_, .pointed hds hfs hne⟩
        rw [List.append_assoc, List.cons_append, ← hmore, ← hr, ← hcs]
  · rw [mantissaPart_plain fun r hr => hpoint ⟨r, hr⟩] at h
    split at h
    · exact nomatch h
    · next hne =>
        cases h
        exact ⟨text, _, hcs, .whole hds hne⟩

theorem Mantissa.length {text : List Char} {ds : List Nat} {fraction? : Option (List Nat)}
    (h : Mantissa text ds fraction?) : text.length = mantissaSize ds fraction? := by
  cases h with
  | whole hds _ => exact hds.length
  | pointed hds hfs _ =>
      rw [List.length_append, List.length_cons, hds.length, hfs.length, mantissaSize]

/-- A mantissa is read as it is written if nothing follows that goes on with it. -/
theorem Mantissa.mantissaPart_eq {text after : List Char} {ds : List Nat}
    {fraction? : Option (List Nat)} (h : Mantissa text ds fraction?) (hafter : Undigited after) :
    mantissaPart (text ++ after) = some (ds, fraction?) := by
  cases h with
  | whole hds hne =>
      have hspan := hds.spanDigits_stop hafter.spanDigits_eq
      have hplain : ∀ r, (spanDigits digitValue? (text ++ after)).2 ≠ '.' :: r := by
        rw [hspan]
        exact hafter.ne_point
      rw [mantissaPart_plain hplain, hspan, if_neg hne]
  | @pointed text more _ fs hds hfs hne =>
      have hspan : spanDigits digitValue? (text ++ '.' :: (more ++ after)) = (ds, _) :=
        hds.spanDigits_stop rfl
      have hmore := hfs.spanDigits_stop hafter.spanDigits_eq
      rw [List.append_assoc, List.cons_append, mantissaPart_point (congrArg Prod.snd hspan), hspan,
        hmore, if_neg hne]

/-- A mantissa is read at least to its end, whatever follows. -/
theorem Mantissa.reach {text : List Char} {ds : List Nat} {fraction? : Option (List Nat)}
    (h : Mantissa text ds fraction?) (after : List Char) :
    ∃ ds' fraction?', mantissaPart (text ++ after) = some (ds', fraction?') ∧
      text.length ≤ mantissaSize ds' fraction?' := by
  cases h with
  | whole hds hne =>
      have hspan := hds.spanDigits_append after
      have hsome : (spanDigits digitValue? (text ++ after)).1 ≠ [] := by
        rw [hspan]
        exact List.append_ne_nil_of_left_ne_nil hne _
      have hlen : text.length ≤ (spanDigits digitValue? (text ++ after)).1.length := by
        rw [hspan, List.length_append, hds.length]
        exact Nat.le_add_right _ _
      -- what follows may go on with digits, and then with a point and more of them
      by_cases hpoint : ∃ r, (spanDigits digitValue? (text ++ after)).2 = '.' :: r
      · obtain ⟨r, hr⟩ := hpoint
        rw [mantissaPart_point hr, if_neg fun h => hsome h.1]
        exact ⟨_, _, rfl, Nat.le_add_right_of_le hlen⟩
      · rw [mantissaPart_plain fun r hr => hpoint ⟨r, hr⟩, if_neg hsome]
        exact ⟨_, _, rfl, hlen⟩
  | @pointed text more _ fs hds hfs hne =>
      have hspan : spanDigits digitValue? (text ++ '.' :: (more ++ after)) = (ds, _) :=
        hds.spanDigits_stop rfl
      have hmore := hfs.spanDigits_append after
      have hsome : ¬(ds = [] ∧ fs ++ (spanDigits digitValue? after).1 = []) := fun h =>
        hne ⟨h.1, (List.append_eq_nil_iff.mp h.2).1⟩
      rw [List.append_assoc, List.cons_append, mantissaPart_point (congrArg Prod.snd hspan), hspan,
        hmore, if_neg hsome]
      refine ⟨_, _, rfl, ?_⟩
      simp only [mantissaSize, List.length_append, List.length_cons, hds.length, hfs.length]
      omega

/-- What is passed over as a sign is one. -/
theorem isSign_take (cs : List Char) :
    IsSign (cs.take (signSize cs)) ∧ (cs.take (signSize cs) = ['-'] ↔ cs.head? = some '-') := by
  unfold signSize
  split
  · exact ⟨Or.inr (Or.inl rfl), iff_of_false (fun h => nomatch h) (fun h => nomatch h)⟩
  · exact ⟨Or.inr (Or.inr rfl), iff_of_true rfl rfl⟩
  · next hminus =>
      refine ⟨Or.inl rfl, iff_of_false (fun h => nomatch h) fun hhead => ?_⟩
      obtain ⟨tail, rfl⟩ := List.head?_eq_some_iff.mp hhead
      exact hminus tail rfl

/-- A sign is passed over before a digit. -/
theorem IsSign.signSize_eq {sign : List Char} (h : IsSign sign) {c : Char} {d : Nat}
    (hc : digitValue? c = some d) (cs : List Char) :
    signSize (sign ++ c :: cs) = sign.length ∧
      ((sign ++ c :: cs).head? = some '-' ↔ sign = ['-']) := by
  rcases h with rfl | rfl | rfl
  · have hplus : c ≠ '+' := by
      rintro rfl
      exact nomatch hc
    have hminus : c ≠ '-' := by
      rintro rfl
      exact nomatch hc
    rw [LessonVariants.signSize_eq]
    simp [hplus, hminus]
  · exact ⟨rfl, iff_of_false (fun h => nomatch h) (fun h => nomatch h)⟩
  · exact ⟨rfl, iff_of_true rfl rfl⟩

theorem exponentPart_sound {cs : List Char} {n : Nat} {e : Int}
    (h : exponentPart cs = some (n, e)) :
    ∃ text rest, cs = text ++ rest ∧ Exponent text e ∧ text.length = n := by
  cases cs with
  | nil => exact nomatch h
  | cons mark cs =>
      rw [exponentPart_cons] at h
      split at h
      · next hmark =>
          obtain ⟨text, hcs, hds⟩ := spanDigits_digits (cs.drop (signSize cs))
          dsimp only at h
          split at h
          · exact nomatch h
          · next hne =>
              cases h
              obtain ⟨hsign, hminus⟩ := isSign_take cs
              refine ⟨mark :: (cs.take (signSize cs) ++ text),
                (spanDigits digitValue? (cs.drop (signSize cs))).2, ?_, ?_, ?_⟩
              · rw [List.cons_append, List.append_assoc, ← hcs, List.take_append_drop]
              · have hvalue := Exponent.mk hmark hsign hds hne
                simp only [hminus] at hvalue
                exact hvalue
              · rw [List.length_cons, List.length_append, List.length_take_of_le (signSize_le cs),
                  hds.length]
                omega
      · exact nomatch h

/-- An exponent is read at least to its end, and as it is written if nothing follows. -/
theorem Exponent.reach {text : List Char} {e : Int} (h : Exponent text e) (after : List Char) :
    ∃ n e', exponentPart (text ++ after) = some (n, e') ∧ text.length ≤ n ∧
      (after = [] → n = text.length ∧ e' = e) := by
  obtain @⟨mark, sign, digits, ds, hmark, hsign, hds, hne⟩ := h
  have hspan := hds.spanDigits_append after
  have hsome : ds ++ (spanDigits digitValue? after).1 ≠ [] :=
    List.append_ne_nil_of_left_ne_nil hne _
  -- the text of the exponent has a digit behind its sign, so no other sign is passed over
  obtain ⟨hsize, hminus⟩ : signSize (sign ++ (digits ++ after)) = sign.length ∧
      ((sign ++ (digits ++ after)).head? = some '-' ↔ sign = ['-']) := by
    obtain ⟨d, ds, rfl⟩ := List.exists_cons_of_ne_nil hne
    obtain ⟨c, cs, rfl, hc, -⟩ := List.map_eq_cons_iff.mp hds
    exact hsign.signSize_eq hc _
  rw [List.cons_append, List.append_assoc, exponentPart_cons, if_pos hmark]
  dsimp only
  rw [hsize, List.drop_left, hspan, if_neg hsome]
  refine ⟨_, _, rfl, ?_, ?_⟩
  · simp only [List.length_cons, List.length_append, hds.length]
    omega
  · rintro rfl
    have hlen := hds.length
    simp only [spanDigits, List.append_nil, List.length_cons, List.length_append] at hminus ⊢
    refine ⟨by omega, ?_⟩
    simp only [hminus]

/-- A mark of an exponent is neither a digit nor a point. -/
theorem Exponent.undigited {text : List Char} {e : Int} (h : Exponent text e) (after : List Char) :
    Undigited (text ++ after) := by
  obtain ⟨hmark, -, -, -⟩ := h
  rcases hmark with rfl | rfl
  · exact undigited_cons rfl (by decide) _
  · exact undigited_cons rfl (by decide) _

theorem numberMunch?_sound {cs : List Char} {l : Lexeme} (h : numberMunch? cs = some l) :
    ∃ text rest, cs = text ++ rest ∧ Written l.token text ∧ text.length = l.size := by
  obtain ⟨⟨ds, fraction?⟩, hpart, heq⟩ := Option.map_eq_some_iff.mp h
  obtain ⟨text, rest, rfl, hm⟩ := mantissaPart_sound hpart
  dsimp only at heq
  rw [← hm.length, List.drop_left] at heq
  split at heq
  · subst heq
    exact ⟨text, rest, rfl, .number (.unscaled hm), rfl⟩
  · next hexponent =>
      subst heq
      obtain ⟨more, rest, rfl, he, rfl⟩ := exponentPart_sound hexponent
      exact ⟨text ++ more, rest, (List.append_assoc _ _ _).symm, .number (.scaled hm he),
        List.length_append⟩

/-- A number covers its mantissa at least. -/
theorem numberMunch?_of_mantissa {cs : List Char} {ds : List Nat} {fraction? : Option (List Nat)}
    (h : mantissaPart cs = some (ds, fraction?)) :
    ∃ l, numberMunch? cs = some l ∧ mantissaSize ds fraction? ≤ l.size := by
  rw [numberMunch?, h]
  refine ⟨_, rfl, ?_⟩
  dsimp only
  split
  · exact Nat.le_refl _
  · exact Nat.le_add_right _ _

/-- A number is read at least to its end. -/
theorem NumberText.reach {text : List Char} {n : Numeral} (h : NumberText text n)
    (after : List Char) :
    ∃ l, numberMunch? (text ++ after) = some l ∧ text.length ≤ l.size := by
  cases h with
  | unscaled hm =>
      obtain ⟨_, _, hpart, hlen⟩ := hm.reach after
      obtain ⟨l, hl, hsize⟩ := numberMunch?_of_mantissa hpart
      exact ⟨l, hl, Nat.le_trans hlen hsize⟩
  | @scaled text more ds fraction? _ hm he =>
      have hpart := hm.mantissaPart_eq (he.undigited after)
      obtain ⟨n, e', hexponent, hlen, -⟩ := he.reach after
      rw [List.append_assoc, numberMunch?, hpart, Option.map_some]
      dsimp only
      rw [← hm.length, List.drop_left, hexponent]
      refine ⟨_, rfl, ?_⟩
      rw [List.length_append]
      exact Nat.add_le_add_left hlen _

/-- The text of a number is read as it is written. -/
theorem NumberText.numberMunch?_eq {text : List Char} {n : Numeral} (h : NumberText text n) :
    numberMunch? text = some ⟨.number n, text.length⟩ := by
  cases h with
  | unscaled hm =>
      have hpart := hm.mantissaPart_eq undigited_nil
      rw [List.append_nil] at hpart
      rw [numberMunch?, hpart, Option.map_some]
      dsimp only
      rw [← hm.length, List.drop_length]
      rfl
  | @scaled text more ds fraction? e hm he =>
      have hundigited := he.undigited []
      obtain ⟨n, e', hexponent, -, hexact⟩ := he.reach []
      obtain ⟨rfl, rfl⟩ := hexact rfl
      rw [List.append_nil] at hundigited hexponent
      rw [numberMunch?, hm.mantissaPart_eq hundigited, Option.map_some]
      dsimp only
      rw [← hm.length, List.drop_left, hexponent, List.length_append]

/-- What neither a digit nor a point begins is no number. -/
theorem Undigited.numberMunch?_eq {cs : List Char} (h : Undigited cs) : numberMunch? cs = none := by
  have hplain : ∀ r, (spanDigits digitValue? cs).2 ≠ '.' :: r := by
    rw [h.spanDigits_eq]
    exact h.ne_point
  rw [numberMunch?, mantissaPart_plain hplain, h.spanDigits_eq, if_pos rfl]
  rfl

/-! ## Strings -/

theorem stringBody_sound {quote : Char} {cs body : List Char} {n : Nat}
    (h : stringBody quote cs = some (body, n)) :
    ∃ text rest, cs = text ++ rest ∧ StringText quote text body ∧ text.length = n := by
  fun_induction stringBody quote cs generalizing body n with
  | case3 c cs hc ih =>
      obtain ⟨⟨body', n'⟩, hbody, heq⟩ := Option.map_eq_some_iff.mp h
      cases heq
      obtain ⟨text, rest, rfl, htext, rfl⟩ := ih hbody
      exact ⟨'\\' :: c :: text, rest, rfl, .escaped hc htext, rfl⟩
  | case4 cs _ =>
      cases h
      exact ⟨[quote], cs, rfl, .close, rfl⟩
  | case6 c cs _ hne hback ih =>
      obtain ⟨⟨body', n'⟩, hbody, heq⟩ := Option.map_eq_some_iff.mp h
      cases heq
      obtain ⟨text, rest, rfl, htext, rfl⟩ := ih hbody
      exact ⟨c :: text, rest, rfl, .plain hne hback htext, rfl⟩
  | _ => cases h

/-- A string is read up to its closing quote, whatever follows. -/
theorem StringText.stringBody_eq {quote : Char} {text body : List Char}
    (h : StringText quote text body) (hquote : quote ≠ '\\') (after : List Char) :
    stringBody quote (text ++ after) = some (body, text.length) := by
  induction h with
  | close => rw [List.singleton_append, stringBody_cons hquote, if_pos rfl, List.length_singleton]
  | plain hne hback _ ih =>
      rw [List.cons_append, stringBody_cons hback, if_neg hne, ih]
      rfl
  | escaped hc _ ih =>
      rw [List.cons_append, List.cons_append, stringBody, if_neg hc, ih]
      rfl

theorem stringLexeme?_sound {cs : List Char} {l : Lexeme} (h : stringLexeme? cs = some l) :
    ∃ text rest, cs = text ++ rest ∧ Written l.token text ∧ text.length = l.size := by
  cases cs with
  | nil => cases h
  | cons c cs =>
      rw [stringLexeme?] at h
      split at h
      · next hquote =>
          obtain ⟨⟨body, n⟩, hbody, heq⟩ := Option.map_eq_some_iff.mp h
          cases heq
          obtain ⟨text, rest, rfl, htext, rfl⟩ := stringBody_sound hbody
          exact ⟨c :: text, rest, rfl, .string hquote htext, rfl⟩
      · cases h

theorem StringText.stringLexeme?_eq {quote : Char} {text body : List Char}
    (h : StringText quote text body) (hquote : quote = '\'' ∨ quote = '"') (after : List Char) :
    stringLexeme? (quote :: text ++ after)
      = some ⟨.string (String.ofList body), (quote :: text).length⟩ := by
  have hback : quote ≠ '\\' := by
    rintro rfl
    exact absurd hquote (by decide)
  rw [List.cons_append, stringLexeme?, if_pos hquote, h.stringBody_eq hback]
  rfl

/-- No number begins with a quote. -/
theorem undigited_of_quote {quote : Char} (h : quote = '\'' ∨ quote = '"') (cs : List Char) :
    Undigited (quote :: cs) := by
  rcases h with rfl | rfl
  · exact undigited_cons rfl (by decide) cs
  · exact undigited_cons rfl (by decide) cs

/-! ## Operators -/

theorem opLexeme?_sound {cs : List Char} {l : Lexeme} (h : opLexeme? cs = some l) :
    ∃ text rest, cs = text ++ rest ∧ Written l.token text ∧ text.length = l.size := by
  unfold opLexeme? at h
  split at h <;> cases h
  all_goals exact ⟨_, _, rfl, .op _, rfl⟩

/-- The text of an operator is read as it is written. -/
theorem opLexeme?_text (o : Op) :
    opLexeme? o.text.toList = some ⟨.op o, o.text.toList.length⟩ := by
  cases o with
  | compare c => cases c <;> rfl
  | _ => rfl

/-- An operator is read at least to its end. -/
theorem opLexeme?_reach (o : Op) (after : List Char) :
    ∃ l, opLexeme? (o.text.toList ++ after) = some l ∧ o.text.toList.length ≤ l.size := by
  induction after generalizing o with
  | nil =>
      rw [List.append_nil]
      exact ⟨_, opLexeme?_text o, Nat.le_refl _⟩
  | cons c cs ih =>
      by_cases hc : c = '='
      · -- an equality sign makes some of the operators longer
        subst hc
        cases o with
        | not =>
            obtain ⟨l, hl, hsize⟩ := ih (.compare .notEqual)
            exact ⟨l, hl, Nat.le_of_succ_le hsize⟩
        | compare c => cases c <;> exact ⟨_, rfl, by decide⟩
        | _ => exact ⟨_, rfl, by decide⟩
      · exact ⟨_, opLexeme?_before hc (opLexeme?_text o) cs, Nat.le_refl _⟩

/-- No operator begins as a string or as a name does. -/
theorem op_unworded (o : Op) (after : List Char) :
    stringLexeme? (o.text.toList ++ after) = none ∧
      nameLexeme? (o.text.toList ++ after) = none := by
  cases o with
  | compare c => cases c <;> exact ⟨rfl, rfl⟩
  | _ => exact ⟨rfl, rfl⟩

/-- A point alone begins as a number does. -/
theorem op_undigited {o : Op} (h : o ≠ .dot) (after : List Char) :
    Undigited (o.text.toList ++ after) := by
  cases o with
  | dot => exact absurd rfl h
  | compare c => cases c <;> exact undigited_cons rfl (by decide) _
  | _ => exact undigited_cons rfl (by decide) _

/-! ## Names -/

/-- Where the characters that start a name lie. -/
theorem isNameStart_range {c : Char} (h : isNameStart c = true) :
    c.toNat = 36 ∨ 65 ≤ c.toNat ∧ c.toNat ≤ 122 := by
  rw [isNameStart, Bool.or_eq_true, Bool.or_eq_true, beq_iff_eq, beq_iff_eq] at h
  rcases h with (halpha | rfl) | rfl
  · rcases Bool.or_eq_true_iff.mp halpha with hupper | hlower
    · have hrange : 65 ≤ c.toNat ∧ c.toNat ≤ 90 := of_decide_eq_true hupper
      omega
    · have hrange : 97 ≤ c.toNat ∧ c.toNat ≤ 122 :=
        (Bool.and_eq_true_iff.mp hlower).imp of_decide_eq_true of_decide_eq_true
      omega
  · decide
  · decide

/-- What starts a name is neither a quote nor does it begin a number. -/
theorem isNameStart_only {c : Char} (h : isNameStart c = true) :
    ¬(c = '\'' ∨ c = '"') ∧ digitValue? c = none ∧ c ≠ '.' := by
  refine ⟨?_, ?_, ?_⟩
  · rintro (rfl | rfl)
    · exact absurd h (by decide)
    · exact absurd h (by decide)
  · have hrange := isNameStart_range h
    rw [digitValue?, if_pos (by omega), if_neg (by omega)]
  · rintro rfl
    exact absurd h (by decide)

theorem nameLexeme?_sound {cs : List Char} {l : Lexeme} (h : nameLexeme? cs = some l) :
    ∃ text rest, cs = text ++ rest ∧ Written l.token text ∧ text.length = l.size := by
  cases cs with
  | nil => cases h
  | cons c cs =>
      rw [nameLexeme?] at h
      split at h
      · next hc =>
          cases h
          refine ⟨c :: cs.takeWhile isNamePart, cs.dropWhile isNamePart, ?_, ?_, rfl⟩
          · rw [List.cons_append, List.takeWhile_append_dropWhile]
          · exact .name hc fun d hd => List.mem_takeWhile_imp hd
      · cases h

/-- A name is read at least to its end. -/
theorem nameLexeme?_append {c : Char} {cs : List Char} (hc : isNameStart c = true)
    (hcs : ∀ d ∈ cs, isNamePart d = true) (after : List Char) :
    nameLexeme? (c :: cs ++ after) =
      some ⟨.name (String.ofList (c :: cs ++ after.takeWhile isNamePart)),
        (c :: cs ++ after.takeWhile isNamePart).length⟩ := by
  rw [List.cons_append, nameLexeme?, if_pos hc, List.takeWhile_append_of_pos hcs]
  rfl

/-! ## Tokens -/

/-- A number covers a character at least. -/
theorem numberMunch?_pos {cs : List Char} {l : Lexeme} (h : numberMunch? cs = some l) :
    1 ≤ l.size := by
  obtain ⟨⟨ds, fraction?⟩, hpart, -⟩ := Option.map_eq_some_iff.mp h
  obtain ⟨l', hl, hsize⟩ := numberMunch?_of_mantissa hpart
  cases h.symm.trans hl
  exact Nat.le_trans (mantissaPart_size hpart).1 hsize

/-- The lexeme at the head of a text is written there. -/
theorem munch?_sound {cs : List Char} {l : Lexeme} (h : munch? cs = some l) :
    ∃ text rest, cs = text ++ rest ∧ Written l.token text ∧ text.length = l.size := by
  unfold munch? at h
  simp only [Option.or_eq_some_iff] at h
  rcases h with hn | ⟨-, hs | ⟨-, hm | ⟨-, ho⟩⟩⟩
  · exact numberMunch?_sound hn
  · exact stringLexeme?_sound hs
  · exact nameLexeme?_sound hm
  · exact opLexeme?_sound ho

/-- A string is the lexeme where it is written. -/
theorem StringText.munch?_eq {quote : Char} {text body : List Char}
    (h : StringText quote text body) (hquote : quote = '\'' ∨ quote = '"') (after : List Char) :
    munch? (quote :: text ++ after)
      = some ⟨.string (String.ofList body), (quote :: text).length⟩ := by
  have hnumber : numberMunch? (quote :: text ++ after) = none :=
    (undigited_of_quote hquote (text ++ after)).numberMunch?_eq
  rw [munch?, hnumber, h.stringLexeme?_eq hquote, Option.none_or, Option.some_or]

/-- A name is the beginning of the lexeme where it is written. -/
theorem munch?_name {c : Char} {cs : List Char} (hc : isNameStart c = true)
    (hcs : ∀ d ∈ cs, isNamePart d = true) (after : List Char) :
    munch? (c :: cs ++ after) =
      some ⟨.name (String.ofList (c :: cs ++ after.takeWhile isNamePart)),
        (c :: cs ++ after.takeWhile isNamePart).length⟩ := by
  obtain ⟨hquote, hdigit, hpoint⟩ := isNameStart_only hc
  have hnumber : numberMunch? (c :: cs ++ after) = none :=
    (undigited_cons hdigit hpoint (cs ++ after)).numberMunch?_eq
  have hstring : stringLexeme? (c :: cs ++ after) = none := by
    rw [List.cons_append, stringLexeme?, if_neg hquote]
  rw [munch?, hnumber, hstring, nameLexeme?_append hc hcs, Option.none_or, Option.none_or,
    Option.some_or]

/-- **A lexeme reaches as far as any token that is written at the head of the text.** -/
theorem Written.reach {t : Token} {text : List Char} (h : Written t text) (after : List Char) :
    ∃ l, munch? (text ++ after) = some l ∧ text.length ≤ l.size := by
  cases h with
  | number hn =>
      obtain ⟨l, hl, hsize⟩ := hn.reach after
      refine ⟨l, ?_, hsize⟩
      rw [munch?, hl, Option.some_or]
  | string hquote htext => exact ⟨_, htext.munch?_eq hquote after, Nat.le_refl _⟩
  | name hc hcs =>
      refine ⟨_, munch?_name hc hcs after, ?_⟩
      rw [List.length_append]
      exact Nat.le_add_right _ _
  | op o =>
      obtain ⟨hstring, hname⟩ := op_unworded o after
      cases hnumber : numberMunch? (o.text.toList ++ after) with
      | none =>
          obtain ⟨l, hl, hsize⟩ := opLexeme?_reach o after
          refine ⟨l, ?_, hsize⟩
          rw [munch?, hnumber, hstring, hname, hl, Option.none_or, Option.none_or, Option.none_or]
      | some l =>
          -- only a point may begin a number, and it is one character
          have hdot : o = .dot := by
            refine Classical.byContradiction fun hne => ?_
            rw [(op_undigited hne after).numberMunch?_eq] at hnumber
            exact nomatch hnumber
          refine ⟨l, by rw [munch?, hnumber, Option.some_or], ?_⟩
          rw [hdot]
          exact numberMunch?_pos hnumber

/-- A token that is written out is the lexeme of its own text. -/
theorem Written.munch?_eq {t : Token} {text : List Char} (h : Written t text) :
    munch? text = some ⟨t, text.length⟩ := by
  cases h with
  | number hn => rw [munch?, hn.numberMunch?_eq, Option.some_or]
  | string hquote htext =>
      have hexact := htext.munch?_eq hquote []
      rw [List.append_nil] at hexact
      exact hexact
  | name hc hcs =>
      have hexact := munch?_name hc hcs []
      rw [List.takeWhile_nil, List.append_nil] at hexact
      exact hexact
  | op o =>
      cases o with
      | compare c => cases c <;> rfl
      | _ => rfl

/-- A text is that of one token at most. -/
theorem Written.unique {t u : Token} {text : List Char} (ht : Written t text)
    (hu : Written u text) : t = u := by
  have h := ht.munch?_eq.symm.trans hu.munch?_eq
  exact congrArg Lexeme.token (Option.some.inj h)

/-- **The lexeme at the head of a text is the longest one**, whichever its class. -/
theorem longest_iff {t : Token} {text rest : List Char} :
    Longest t text rest ↔ munch? (text ++ rest) = some ⟨t, text.length⟩ := by
  constructor
  · rintro ⟨hwritten, hlongest⟩
    obtain ⟨l, hl, hreach⟩ := hwritten.reach rest
    obtain ⟨text', rest', hsplit, hwritten', hlen⟩ := munch?_sound hl
    have hle := hlongest _ text' rest' hsplit hwritten'
    obtain ⟨rfl, -⟩ := List.append_inj hsplit (by omega)
    obtain rfl := hwritten.unique hwritten'
    rw [hl, hlen]
  · intro h
    obtain ⟨text', rest', hsplit, hwritten, hlen⟩ := munch?_sound h
    obtain ⟨rfl, rfl⟩ := List.append_inj hsplit hlen.symm
    refine ⟨hwritten, fun u other tail hother hu => ?_⟩
    obtain ⟨l, hl, hreach⟩ := hu.reach tail
    rw [← hother, h] at hl
    cases hl
    exact hreach

/-- There is no lexeme just if no token is written at the head of the text. -/
theorem munch?_eq_none {cs : List Char} :
    munch? cs = none ↔ ∀ t text rest, cs = text ++ rest → ¬Written t text := by
  constructor
  · rintro h t text rest rfl hwritten
    obtain ⟨l, hl, -⟩ := hwritten.reach rest
    exact nomatch h.symm.trans hl
  · intro h
    cases hl : munch? cs with
    | none => rfl
    | some l =>
        obtain ⟨text, rest, hsplit, hwritten, -⟩ := munch?_sound hl
        exact absurd hwritten (h _ text rest hsplit)

/-! ## Integers of too many digits -/

/-- A lexeme, unless it is an integer of too many digits. -/
def Lexeme.admitted (l : Lexeme) : Except Malformed Lexeme :=
  match l.token with
  | .number (.integer _) =>
      if maxIntegerDigits < l.size then .error .oversizedInteger else .ok l
  | _ => .ok l

theorem Lexeme.admitted_eq_ok {l l' : Lexeme} :
    l.admitted = .ok l' ↔ l = l' ∧ ¬Overlong l.token l.size := by
  unfold admitted
  split
  · next n htoken =>
      rw [htoken]
      split
      · next hlong => exact iff_of_false (fun h => nomatch h) fun h => h.2 ⟨n, rfl, hlong⟩
      · next hshort =>
          have hfits : ¬Overlong (.number (.integer n)) l.size := fun ⟨_, _, hlong⟩ => hshort hlong
          rw [and_iff_left hfits, Except.ok.injEq]
  · next hother =>
      rw [and_iff_left (not_overlong hother), Except.ok.injEq]

theorem numberLexeme?_admitted (cs : List Char) :
    numberLexeme? cs = (numberMunch? cs).map Lexeme.admitted := by
  rw [numberLexeme?_eq, numberMunch?, Option.map_map]
  refine congrArg (Option.map · (mantissaPart cs)) (funext fun ⟨ds, fraction?⟩ => ?_)
  dsimp only [Function.comp]
  cases exponentPart (cs.drop (mantissaSize ds fraction?)) with
  | none => cases fraction? <;> rfl
  | some part => cases fraction? <;> rfl

/-- Neither a string nor a name nor an operator is a number. -/
theorem word_ne_number {cs : List Char} {l : Lexeme}
    (h : (stringLexeme? cs).or ((nameLexeme? cs).or (opLexeme? cs)) = some l) (n : Numeral) :
    l.token ≠ .number n := by
  rw [Option.or_eq_some_iff, Option.or_eq_some_iff] at h
  rcases h with h | ⟨-, h | ⟨-, h⟩⟩
  · unfold stringLexeme? at h
    split at h
    · exact nomatch h
    · split at h
      · obtain ⟨_, -, rfl⟩ := Option.map_eq_some_iff.mp h
        exact fun h => nomatch h
      · exact nomatch h
  · unfold nameLexeme? at h
    split at h
    · exact nomatch h
    · split at h
      · cases h
        exact fun h => nomatch h
      · exact nomatch h
  · unfold opLexeme? at h
    split at h <;> cases h <;> exact fun h => nomatch h

/-- A lexeme is the one of any size, if it is admitted. -/
theorem lexeme?_admitted (cs : List Char) : lexeme? cs = (munch? cs).map Lexeme.admitted := by
  unfold lexeme? munch?
  rw [Option.map_or (f := Lexeme.admitted), numberLexeme?_admitted]
  refine congrArg _ (Option.map_congr fun l hl => ?_)
  exact (Lexeme.admitted_eq_ok.mpr ⟨rfl, not_overlong fun n => word_ne_number hl _⟩).symm

/-- **A lexeme is the longest text of a token**, and no integer of too many digits. -/
theorem lexeme?_eq_longest {cs : List Char} {l : Lexeme} :
    lexeme? cs = some (.ok l) ↔
      ∃ text rest, cs = text ++ rest ∧ text.length = l.size ∧ Longest l.token text rest ∧
        ¬Overlong l.token l.size := by
  rw [lexeme?_admitted, Option.map_eq_some_iff]
  constructor
  · rintro ⟨l', hmunch, hadmitted⟩
    obtain ⟨rfl, hfits⟩ := Lexeme.admitted_eq_ok.mp hadmitted
    obtain ⟨text, rest, rfl, -, hlen⟩ := munch?_sound hmunch
    refine ⟨text, rest, rfl, hlen, longest_iff.mpr ?_, hfits⟩
    rw [hmunch, hlen]
  · rintro ⟨text, rest, rfl, hlen, hlongest, hfits⟩
    refine ⟨l, ?_, Lexeme.admitted_eq_ok.mpr ⟨rfl, hfits⟩⟩
    rw [longest_iff.mp hlongest, hlen]

/-- Where no token is written there is no lexeme. -/
theorem lexeme?_eq_none {cs : List Char} :
    lexeme? cs = none ↔ ∀ t text rest, cs = text ++ rest → ¬Written t text := by
  rw [lexeme?_admitted, Option.map_eq_none_iff, munch?_eq_none]

/-! ## Blanks -/

/-- Where blanks lie. -/
theorem isBlank_range {c : Char} (h : isBlank c = true) : c.toNat ≤ 32 ∨ 133 ≤ c.toNat := by
  unfold isBlank inRanges whiteSpaceRanges at h
  simp only [List.any_cons, List.any_nil, Bool.or_false, Bool.or_eq_true, Bool.and_eq_true,
    decide_eq_true_eq] at h
  omega

/-- No lexeme goes on with a blank. -/
theorem separates_of_isBlank {c : Char} (h : isBlank c = true) : Separates c := by
  have hrange := isBlank_range h
  refine ⟨?_, digitValue?_of_isBlank h, ?_⟩
  · rw [← Bool.not_eq_true, isNamePart, Bool.or_eq_true]
    rintro (hstart | hdigit)
    · have hname := isNameStart_range hstart
      omega
    · have hascii : 48 ≤ c.toNat ∧ c.toNat ≤ 57 :=
        (Bool.and_eq_true_iff.mp hdigit).imp of_decide_eq_true of_decide_eq_true
      omega
  · simp only [List.mem_cons, List.not_mem_nil, or_false]
    rintro (rfl | rfl | rfl | rfl)
    all_goals exact absurd h (by decide)

/-- A token is written with one character at least, and the first one is no blank. -/
theorem Written.begins {t : Token} {text : List Char} (h : Written t text) :
    ∃ c cs, text = c :: cs ∧ isBlank c = false := by
  cases h with
  | number hn =>
      cases text with
      | nil => exact nomatch hn.numberMunch?_eq
      | cons c cs =>
          refine ⟨c, cs, rfl, ?_⟩
          rw [← Bool.not_eq_true]
          intro hblank
          obtain ⟨-, hdigit, hmarks⟩ := separates_of_isBlank hblank
          have hundigited := undigited_cons hdigit (fun h => hmarks (by simp [h])) cs
          exact nomatch hundigited.numberMunch?_eq.symm.trans hn.numberMunch?_eq
  | string hquote _ =>
      refine ⟨_, _, rfl, ?_⟩
      rcases hquote with rfl | rfl <;> rfl
  | @name c cs hc _ =>
      refine ⟨c, cs, rfl, ?_⟩
      rw [← Bool.not_eq_true]
      intro hblank
      have hname := isNameStart_range hc
      have hrange := isBlank_range hblank
      omega
  | op o =>
      cases o with
      | compare c => cases c <;> exact ⟨_, _, rfl, rfl⟩
      | _ => exact ⟨_, _, rfl, rfl⟩

/-! ## The numbers that digits denote -/

/-- Digits are read in base ten, the most significant one first. -/
theorem ofDigits_eq (ds : List Nat) : ofDigits ds = Nat.ofDigits 10 ds.reverse := by
  rw [ofDigits, List.foldl_eq_foldr_reverse, Nat.ofDigits_eq_foldr]
  refine congrArg (List.foldr · 0 ds.reverse) (funext₂ fun d n => Nat.add_comm _ _)

/-- **A number without a point and without a mark is an integer**, the one that its digits
    denote. -/
theorem NumberText.integer {text : List Char} {n : Numeral} (h : NumberText text n)
    (hplain : ∀ c ∈ text, c ∉ ['.', 'e', 'E']) :
    ∃ ds, Digits text ds ∧ n = .integer (Nat.ofDigits 10 ds.reverse) := by
  cases h with
  | unscaled hm =>
      cases hm with
      | whole hds _ =>
          rw [Numeral.ofMantissa, ofDigits_eq]
          exact ⟨_, hds, rfl⟩
      | pointed _ _ _ => exact absurd List.mem_cons_self (hplain '.' (by simp))
  | scaled _ he =>
      obtain ⟨hmark, -, -, -⟩ := he
      exact absurd (by simpa using Or.inr hmark) (hplain _ (by simp))

end LessonVariants
