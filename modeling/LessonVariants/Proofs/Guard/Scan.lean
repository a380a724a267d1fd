import LessonVariants.Proofs.Outcome

/-! # Scanning guard text

    A scan takes lexemes and blanks from the front of a text and leaves the rest (`Scan`).  The
    tokens of a text are those of its one scan that leaves nothing; where there is no such scan,
    the longest one leaves a text that no lexeme begins (`lexFrom_eq_ok`, `lexFrom_eq_error`).

    Scans that follow one another are one scan (`Scan.append`), and what a scan finds in a text it
    finds in a longer one as well, if the text is followed by a character that no lexeme goes on
    with (`Scan.before`). -/

namespace LessonVariants

/-- A scan of a text that starts at a position: its tokens, and where it leaves which rest. -/
inductive Scan : Nat → List Char → List Located → Nat → List Char → Prop where
  | stop (p : Nat) (cs : List Char) : Scan p cs [] p cs
  | blank {p q : Nat} {c : Char} {cs rest : List Char} {ts : List Located} :
      isBlank c = true → Scan (p + 1) cs ts q rest → Scan p (c :: cs) ts q rest
  | lexeme {p q : Nat} {c : Char} {cs rest : List Char} {ts : List Located} {l : Lexeme} :
      isBlank c = false → lexeme? (c :: cs) = some (.ok l) →
      Scan (p + l.size) ((c :: cs).drop l.size) ts q rest →
      Scan p (c :: cs) (⟨l.token, p⟩ :: ts) q rest

/-- A text at whose beginning a scan cannot go on, and the error this is. -/
inductive Refused (p : Nat) : List Char → Malformed → Prop where
  | unknown {c : Char} {cs : List Char} : isBlank c = false → lexeme? (c :: cs) = none →
      Refused p (c :: cs) (.complaint (.unexpectedCharacter c) p)
  | faulty {c : Char} {cs : List Char} {m : Malformed} : isBlank c = false →
      lexeme? (c :: cs) = some (.error m) → Refused p (c :: cs) m

/-- Scans that follow one another are one scan. -/
theorem Scan.append {p q r : Nat} {cs ds es : List Char} {ts us : List Located}
    (h : Scan p cs ts q ds) (h' : Scan q ds us r es) : Scan p cs (ts ++ us) r es := by
  induction h with
  | stop => exact h'
  | blank hc _ ih => exact .blank hc (ih h')
  | lexeme hc hl _ ih => exact .lexeme hc hl (ih h')

/-- A scan does not depend on where it starts, the positions of its tokens apart. -/
theorem Scan.shift {p q : Nat} {cs rest : List Char} {ts : List Located} (h : Scan p cs ts q rest)
    (k : Nat) : Scan (p + k) cs (ts.map fun t => ⟨t.token, t.position + k⟩) (q + k) rest := by
  induction h with
  | stop p cs => exact .stop (p + k) cs
  | @blank p _ c cs _ _ hc _ ih =>
      refine .blank hc ?_
      rw [Nat.add_right_comm]
      exact ih
  | @lexeme p _ c cs _ _ l hc hl _ ih =>
      refine .lexeme hc hl ?_
      rw [Nat.add_right_comm]
      exact ih

/-! ## The size of a lexeme -/

/-- Digits and what remains make up the text. -/
theorem spanDigits_length (value? : Char → Option Nat) (cs : List Char) :
    (spanDigits value? cs).1.length + (spanDigits value? cs).2.length = cs.length := by
  induction cs with
  | nil => rfl
  | cons c cs ih =>
      unfold spanDigits
      cases value? c with
      | none => simp
      | some d =>
          simp only [List.length_cons]
          omega

/-- The characters that a mantissa covers. -/
def mantissaSize (whole : List Nat) (fraction? : Option (List Nat)) : Nat :=
  whole.length + (match fraction? with | some f => f.length + 1 | none => 0)

/-- A mantissa with a point. -/
theorem mantissaPart_point {cs r : List Char} (h : (spanDigits digitValue? cs).2 = '.' :: r) :
    mantissaPart cs =
      if (spanDigits digitValue? cs).1 = [] ∧ (spanDigits digitValue? r).1 = [] then none
      else some ((spanDigits digitValue? cs).1, some (spanDigits digitValue? r).1) := by
  unfold mantissaPart
  generalize spanDigits digitValue? cs = span at h ⊢
  obtain ⟨whole, rest⟩ := span
  dsimp only at h
  subst h
  rfl

/-- A mantissa without a point. -/
theorem mantissaPart_plain {cs : List Char} (h : ∀ r, (spanDigits digitValue? cs).2 ≠ '.' :: r) :
    mantissaPart cs =
      if (spanDigits digitValue? cs).1 = [] then none
      else some ((spanDigits digitValue? cs).1, none) := by
  unfold mantissaPart
  dsimp only
  split
  · next r hr => exact absurd hr (h r)
  · rfl

/-- A mantissa covers a character at least, and no more than there are. -/
theorem mantissaPart_size {cs : List Char} {whole : List Nat} {fraction? : Option (List Nat)}
    (h : mantissaPart cs = some (whole, fraction?)) :
    1 ≤ mantissaSize whole fraction? ∧ mantissaSize whole fraction? ≤ cs.length := by
  have hcs := spanDigits_length digitValue? cs
  by_cases hpoint : ∃ r, (spanDigits digitValue? cs).2 = '.' :: r
  · obtain ⟨r, hr⟩ := hpoint
    rw [mantissaPart_point hr] at h
    split at h
    · exact nomatch h
    · cases h
      have hrest := spanDigits_length digitValue? r
      rw [hr, List.length_cons] at hcs
      simp only [mantissaSize]
      omega
  · rw [mantissaPart_plain fun r hr => hpoint ⟨r, hr⟩] at h
    split at h
    · exact nomatch h
    · next hne =>
        cases h
        have := List.length_pos_iff.mpr hne
        simp only [mantissaSize]
        omega

/-- The characters that a sign covers. -/
def signSize : List Char → Nat
  | '+' :: _ => 1
  | '-' :: _ => 1
  | _        => 0

/-- A mark, a sign and digits are an exponent. -/
theorem exponentPart_cons (c : Char) (cs : List Char) :
    exponentPart (c :: cs) =
      if c = 'e' ∨ c = 'E' then
        let ds := (spanDigits digitValue? (cs.drop (signSize cs))).1
        if ds = [] then none
        else some (1 + signSize cs + ds.length,
          if cs.head? = some '-' then -(ofDigits ds : Int) else ofDigits ds)
      else none :=
  rfl

/-- An exponent covers no more characters than there are. -/
theorem exponentPart_size {cs : List Char} {n : Nat} {e : Int}
    (h : exponentPart cs = some (n, e)) : n ≤ cs.length := by
  cases cs with
  | nil => exact nomatch h
  | cons c cs =>
      rw [exponentPart_cons] at h
      split at h
      · dsimp only at h
        split at h
        · exact nomatch h
        · next hne =>
            cases h
            have hlen := spanDigits_length digitValue? (cs.drop (signSize cs))
            have hpos := List.length_pos_iff.mpr hne
            simp only [List.length_drop] at hlen
            simp only [List.length_cons]
            omega
      · exact nomatch h

/-- How a number is read: its mantissa, and its exponent if it has one. -/
theorem numberLexeme?_eq (cs : List Char) :
    numberLexeme? cs = (mantissaPart cs).map fun (whole, fraction?) =>
      match fraction?, exponentPart (cs.drop (mantissaSize whole fraction?)) with
      | none, none =>
          if maxIntegerDigits < whole.length then .error .oversizedInteger
          else .ok ⟨.number (.integer (ofDigits whole)), mantissaSize whole fraction?⟩
      | f, none        =>
          .ok ⟨.number (.decimal (.ofParts whole (f.getD []) 0)), mantissaSize whole fraction?⟩
      | f, some (n, e) =>
          .ok ⟨.number (.decimal (.ofParts whole (f.getD []) e)), mantissaSize whole fraction? + n⟩ :=
  rfl

/-- The closing quote is found inside the text. -/
theorem stringBody_size {quote : Char} {cs body : List Char} {n : Nat}
    (h : stringBody quote cs = some (body, n)) : n ≤ cs.length := by
  fun_induction stringBody quote cs generalizing body n with
  | case3 c cs hc ih =>
      obtain ⟨⟨body', n'⟩, hbody, heq⟩ := Option.map_eq_some_iff.mp h
      cases heq
      have := ih hbody
      simp only [List.length_cons]
      omega
  | case4 c cs =>
      cases h
      simp
  | case6 c cs hc hquote hback ih =>
      obtain ⟨⟨body', n'⟩, hbody, heq⟩ := Option.map_eq_some_iff.mp h
      cases heq
      have := ih hbody
      simp only [List.length_cons]
      omega
  | _ => exact nomatch h

/-- A lexeme is a number, else a string, else a name, else an operator. -/
theorem lexeme?_eq_ok {cs : List Char} {l : Lexeme} :
    lexeme? cs = some (.ok l) ↔
      numberLexeme? cs = some (.ok l) ∨ numberLexeme? cs = none ∧
        (stringLexeme? cs = some l ∨ stringLexeme? cs = none ∧
          (nameLexeme? cs = some l ∨ nameLexeme? cs = none ∧ opLexeme? cs = some l)) := by
  unfold lexeme?
  rw [Option.or_eq_some_iff, Option.map_eq_some_iff]
  simp only [Except.ok.injEq, exists_eq_right, Option.or_eq_some_iff]

/-- Only numbers can be faulty lexemes. -/
theorem lexeme?_eq_error {cs : List Char} {m : Malformed} :
    lexeme? cs = some (.error m) ↔ numberLexeme? cs = some (.error m) := by
  unfold lexeme?
  rw [Option.or_eq_some_iff, Option.map_eq_some_iff]
  simp only [reduceCtorEq, and_false, exists_false, or_false]

/-- A number covers a character at least, and no more than there are. -/
theorem numberLexeme?_size {cs : List Char} {l : Lexeme} (h : numberLexeme? cs = some (.ok l)) :
    1 ≤ l.size ∧ l.size ≤ cs.length := by
  rw [numberLexeme?_eq] at h
  obtain ⟨⟨whole, fraction?⟩, hmantissa, heq⟩ := Option.map_eq_some_iff.mp h
  have hsize := mantissaPart_size hmantissa
  dsimp only at heq
  split at heq
  · split at heq
    · exact nomatch heq
    · cases heq
      exact hsize
  · cases heq
    exact hsize
  · next f n e hexponent =>
      cases heq
      have hn := exponentPart_size hexponent
      simp only [List.length_drop] at hn
      dsimp only
      omega

/-- A string covers its quotes, and no more characters than there are. -/
theorem stringLexeme?_size {cs : List Char} {l : Lexeme} (h : stringLexeme? cs = some l) :
    1 ≤ l.size ∧ l.size ≤ cs.length := by
  cases cs with
  | nil => exact nomatch h
  | cons c cs =>
      rw [stringLexeme?] at h
      split at h
      · obtain ⟨⟨body, n⟩, hbody, heq⟩ := Option.map_eq_some_iff.mp h
        cases heq
        have := stringBody_size hbody
        simp only [List.length_cons]
        omega
      · exact nomatch h

/-- A name covers a character at least, and no more than there are. -/
theorem nameLexeme?_size {cs : List Char} {l : Lexeme} (h : nameLexeme? cs = some l) :
    1 ≤ l.size ∧ l.size ≤ cs.length := by
  cases cs with
  | nil => exact nomatch h
  | cons c cs =>
      rw [nameLexeme?] at h
      split at h
      · cases h
        have := (List.takeWhile_sublist (p := isNamePart) (l := cs)).length_le
        simp only [List.length_cons]
        omega
      · exact nomatch h

/-- An operator covers a character at least, and no more than there are. -/
theorem opLexeme?_size {cs : List Char} {l : Lexeme} (h : opLexeme? cs = some l) :
    1 ≤ l.size ∧ l.size ≤ cs.length := by
  unfold opLexeme? at h
  split at h <;> cases h <;> simp

/-- A lexeme covers a character at least, and no more than there are. -/
theorem lexeme?_size {cs : List Char} {l : Lexeme} (h : lexeme? cs = some (.ok l)) :
    1 ≤ l.size ∧ l.size ≤ cs.length := by
  rcases lexeme?_eq_ok.mp h with hn | ⟨-, hs | ⟨-, hm | ⟨-, ho⟩⟩⟩
  · exact numberLexeme?_size hn
  · exact stringLexeme?_size hs
  · exact nameLexeme?_size hm
  · exact opLexeme?_size ho

/-! ## The scan that `lexFrom` makes -/

/-- The characters of the token before are passed over. -/
theorem lexFrom_covered (p n : Nat) (cs : List Char) :
    lexFrom p n cs = lexFrom (p + n) 0 (cs.drop n) := by
  induction n generalizing p cs with
  | zero => rfl
  | succ n ih =>
      cases cs with
      | nil => rfl
      | cons c cs => rw [lexFrom, ih, List.drop_succ_cons, Nat.add_assoc, Nat.add_comm 1 n]

/-- A blank is passed over. -/
theorem lexFrom_blank {c : Char} (hc : isBlank c = true) (p : Nat) (cs : List Char) :
    lexFrom p 0 (c :: cs) = lexFrom (p + 1) 0 cs := by
  rw [lexFrom]
  exact if_pos hc

/-- A lexeme is a token, and the text after it is read on. -/
theorem lexFrom_lexeme {c : Char} {cs : List Char} {l : Lexeme} (hc : isBlank c = false)
    (hl : lexeme? (c :: cs) = some (.ok l)) (p : Nat) :
    lexFrom p 0 (c :: cs)
      = (lexFrom (p + l.size) 0 ((c :: cs).drop l.size)).map (⟨l.token, p⟩ :: ·) := by
  obtain ⟨n, hn⟩ : ∃ n, l.size = n + 1 := ⟨l.size - 1, by have := lexeme?_size hl; omega⟩
  rw [lexFrom, hc, if_neg Bool.false_ne_true, hl]
  dsimp only
  rw [lexFrom_covered, hn, List.drop_succ_cons, Nat.add_sub_cancel, Nat.add_assoc,
    Nat.add_comm 1 n]

/-- At a text that no scan goes on with, reading fails. -/
theorem Refused.lexFrom_eq {p : Nat} {cs : List Char} {m : Malformed} (h : Refused p cs m) :
    lexFrom p 0 cs = .error m := by
  cases h with
  | unknown hc hl =>
      rw [lexFrom, hc, if_neg Bool.false_ne_true, hl]
  | faulty hc hl =>
      rw [lexFrom, hc, if_neg Bool.false_ne_true, hl]

/-- What a scan finds stands before what is found in the rest. -/
theorem Scan.lexFrom_eq {p q : Nat} {cs rest : List Char} {ts : List Located}
    (h : Scan p cs ts q rest) : lexFrom p 0 cs = (lexFrom q 0 rest).map (ts ++ ·) := by
  induction h with
  | stop p cs => cases lexFrom p 0 cs <;> rfl
  | blank hc _ ih => rw [lexFrom_blank hc, ih]
  | @lexeme _ q _ _ rest _ _ hc hl _ ih =>
      rw [lexFrom_lexeme hc hl, ih]
      cases lexFrom q 0 rest <;> rfl

/-- Reading scans the whole text, or up to where no scan goes on. -/
theorem lexFrom_scan (n : Nat) : ∀ (p : Nat) (cs : List Char), cs.length ≤ n →
    (∃ ts q, lexFrom p 0 cs = .ok ts ∧ Scan p cs ts q []) ∨
    (∃ m ts q rest, lexFrom p 0 cs = .error m ∧ Scan p cs ts q rest ∧ Refused q rest m) := by
  induction n with
  | zero =>
      intro p cs hn
      obtain rfl := List.length_eq_zero_iff.mp (Nat.le_zero.mp hn)
      exact Or.inl ⟨[], p, rfl, .stop p []⟩
  | succ n ih =>
      intro p cs hn
      cases cs with
      | nil => exact Or.inl ⟨[], p, rfl, .stop p []⟩
      | cons c cs =>
          simp only [List.length_cons] at hn
          cases hc : isBlank c with
          | true =>
              rw [lexFrom_blank hc]
              rcases ih (p + 1) cs (by omega) with ⟨ts, q, hts, h⟩ | ⟨m, ts, q, rest, hm, h, hr⟩
              · exact Or.inl ⟨ts, q, hts, .blank hc h⟩
              · exact Or.inr ⟨m, ts, q, rest, hm, .blank hc h, hr⟩
          | false =>
              cases hl : lexeme? (c :: cs) with
              | none =>
                  have hr : Refused p (c :: cs) _ := .unknown hc hl
                  exact Or.inr ⟨_, [], p, c :: cs, hr.lexFrom_eq, .stop p _, hr⟩
              | some outcome =>
                  cases outcome with
                  | error m =>
                      have hr : Refused p (c :: cs) m := .faulty hc hl
                      exact Or.inr ⟨m, [], p, c :: cs, hr.lexFrom_eq, .stop p _, hr⟩
                  | ok l =>
                      -- a lexeme covers a character at least, so the rest is shorter
                      have hsize := lexeme?_size hl
                      rw [lexFrom_lexeme hc hl]
                      rcases ih (p + l.size) ((c :: cs).drop l.size)
                        (by simp only [List.length_drop, List.length_cons]; omega) with
                        ⟨ts, q, hts, h⟩ | ⟨m, ts, q, rest, hm, h, hr⟩
                      · exact Or.inl ⟨_, q, by rw [hts]; rfl, .lexeme hc hl h⟩
                      · exact Or.inr ⟨m, _, q, rest, by rw [hm]; rfl, .lexeme hc hl h, hr⟩

/-- The tokens of a text are those of the scan that leaves nothing. -/
theorem lexFrom_eq_ok {p : Nat} {cs : List Char} {ts : List Located} :
    lexFrom p 0 cs = .ok ts ↔ ∃ q, Scan p cs ts q [] := by
  constructor
  · intro h
    rcases lexFrom_scan _ p cs (Nat.le_refl _) with ⟨us, q, hus, hscan⟩ | ⟨m, _, _, _, hm, _, _⟩
    · rw [h] at hus
      cases hus
      exact ⟨q, hscan⟩
    · rw [h] at hm
      exact nomatch hm
  · rintro ⟨q, h⟩
    rw [h.lexFrom_eq, lexFrom, Except.map, List.append_nil]

/-- A text has no tokens because a scan of it comes to where none goes on. -/
theorem lexFrom_eq_error {p : Nat} {cs : List Char} {m : Malformed} :
    lexFrom p 0 cs = .error m ↔ ∃ ts q rest, Scan p cs ts q rest ∧ Refused q rest m := by
  constructor
  · intro h
    rcases lexFrom_scan _ p cs (Nat.le_refl _) with
      ⟨_, _, hus, _⟩ | ⟨n, ts, q, rest, hn, hscan, hr⟩
    · rw [h] at hus
      exact nomatch hus
    · rw [h] at hn
      cases hn
      exact ⟨ts, q, rest, hscan, hr⟩
  · rintro ⟨ts, q, rest, hscan, hr⟩
    rw [hscan.lexFrom_eq, hr.lexFrom_eq]
    rfl

/-! ## What a longer text begins with -/

/-- The characters with which no lexeme goes on. -/
def Separates (c : Char) : Prop :=
  isNamePart c = false ∧ digitValue? c = none ∧ c ∉ ['.', '+', '-', '=']

instance (c : Char) : Decidable (Separates c) :=
  inferInstanceAs (Decidable (_ ∧ _ ∧ _))

/-- A text does not begin with a character because another one is added at its end. -/
theorem ne_cons_before {c d : Char} (hc : c ≠ d) {cs : List Char}
    (h : ∀ tail, cs = d :: tail → False) (r tail : List Char) :
    cs ++ c :: r = d :: tail → False := by
  intro heq
  cases cs with
  | nil => exact hc (List.cons.inj heq).1
  | cons a cs => exact h cs (by rw [(List.cons.inj heq).1])

/-- Digits end where a character is none. -/
theorem spanDigits_before {value? : Char → Option Nat} {c : Char} (hc : value? c = none)
    (cs r : List Char) :
    spanDigits value? (cs ++ c :: r)
      = ((spanDigits value? cs).1, (spanDigits value? cs).2 ++ c :: r) := by
  induction cs with
  | nil =>
      simp only [List.nil_append, spanDigits, hc]
  | cons d cs ih =>
      rw [List.cons_append, spanDigits, spanDigits]
      cases value? d with
      | none => rfl
      | some n => dsimp only; rw [ih]

/-- A mantissa ends where neither a digit nor a point follows. -/
theorem mantissaPart_before {c : Char} (hc : Separates c) (cs r : List Char) :
    mantissaPart (cs ++ c :: r) = mantissaPart cs := by
  have hdot : c ≠ '.' := fun h => hc.2.2 (by simp [h])
  have hspan := spanDigits_before hc.2.1 cs r
  by_cases hpoint : ∃ f, (spanDigits digitValue? cs).2 = '.' :: f
  · obtain ⟨f, hf⟩ := hpoint
    have hlonger : (spanDigits digitValue? (cs ++ c :: r)).2 = '.' :: (f ++ c :: r) := by
      rw [hspan, hf]
      rfl
    rw [mantissaPart_point hf, mantissaPart_point hlonger, hspan, spanDigits_before hc.2.1]
  · have hplain : ∀ f, (spanDigits digitValue? cs).2 ≠ '.' :: f := fun f hf => hpoint ⟨f, hf⟩
    have hlonger : ∀ f, (spanDigits digitValue? (cs ++ c :: r)).2 ≠ '.' :: f := by
      intro f hf
      rw [hspan] at hf
      exact ne_cons_before hdot (fun tail heq => hplain tail heq) r f hf
    rw [mantissaPart_plain hplain, mantissaPart_plain hlonger, hspan]

/-- A sign is seen at the first character. -/
theorem signSize_eq (cs : List Char) :
    signSize cs = if cs.head? = some '+' ∨ cs.head? = some '-' then 1 else 0 := by
  unfold signSize
  split
  · rfl
  · rfl
  · next hplus hminus =>
      cases cs with
      | nil => rfl
      | cons d cs =>
          refine (if_neg ?_).symm
          rintro (h | h)
          · exact hplus cs (by rw [Option.some.inj h])
          · exact hminus cs (by rw [Option.some.inj h])

/-- A sign is one character. -/
theorem signSize_le (cs : List Char) : signSize cs ≤ cs.length := by
  unfold signSize
  split <;> simp

/-- What separates is no sign. -/
theorem Separates.head?_eq_sign {c : Char} (hc : Separates c) (cs r : List Char) {d : Char}
    (hd : d ∈ ['+', '-']) : (cs ++ c :: r).head? = some d ↔ cs.head? = some d := by
  cases cs with
  | cons _ _ => exact Iff.rfl
  | nil =>
      have hne : c ≠ d := by
        rintro rfl
        exact hc.2.2 (List.mem_cons_of_mem _ (List.mem_append_left ['='] hd))
      simp [hne]

/-- Whether there is a sign is not changed by what separates. -/
theorem signSize_before {c : Char} (hc : Separates c) (cs r : List Char) :
    signSize (cs ++ c :: r) = signSize cs := by
  rw [signSize_eq, signSize_eq]
  simp only [hc.head?_eq_sign cs r (d := '+') (by simp), hc.head?_eq_sign cs r (d := '-') (by simp)]

/-- An exponent ends where no digit follows. -/
theorem exponentPart_before {c : Char} (hc : Separates c) (cs r : List Char) :
    exponentPart (cs ++ c :: r) = exponentPart cs := by
  cases cs with
  | nil =>
      have hmark : ¬(c = 'e' ∨ c = 'E') := by
        rintro (rfl | rfl)
        · exact absurd hc.1 (by decide)
        · exact absurd hc.1 (by decide)
      rw [List.nil_append, exponentPart_cons, if_neg hmark]
      rfl
  | cons d cs =>
      rw [List.cons_append, exponentPart_cons, exponentPart_cons, signSize_before hc,
        List.drop_append_of_le_length (signSize_le cs), spanDigits_before hc.2.1]
      simp only [hc.head?_eq_sign cs r (d := '-') (by simp)]

/-- A number ends where none of its parts goes on. -/
theorem numberLexeme?_before {c : Char} (hc : Separates c) (cs r : List Char) :
    numberLexeme? (cs ++ c :: r) = numberLexeme? cs := by
  rw [numberLexeme?_eq, numberLexeme?_eq, mantissaPart_before hc]
  cases hm : mantissaPart cs with
  | none => rfl
  | some parts =>
      obtain ⟨whole, fraction?⟩ := parts
      have hsize := mantissaPart_size hm
      rw [Option.map_some, Option.map_some]
      dsimp only
      rw [List.drop_append_of_le_length hsize.2, exponentPart_before hc]

/-- A character that is no backslash closes a string or belongs to it. -/
theorem stringBody_cons {quote c : Char} (hc : c ≠ '\\') (cs : List Char) :
    stringBody quote (c :: cs) =
      if c = quote then some ([], 1)
      else (stringBody quote cs).map fun (body, n) => (c :: body, n + 1) := by
  rw [stringBody]
  · rw [if_neg hc]
  · intro d ds h
    exact absurd h hc

/-- A string ends with its closing quote, whatever follows. -/
theorem stringBody_before {quote : Char} (hquote : quote ≠ '\\') {cs body : List Char} {n : Nat}
    (h : stringBody quote cs = some (body, n)) (r : List Char) :
    stringBody quote (cs ++ r) = some (body, n) := by
  fun_induction stringBody quote cs generalizing body n with
  | case3 c cs hc ih =>
      obtain ⟨⟨body', n'⟩, hbody, heq⟩ := Option.map_eq_some_iff.mp h
      cases heq
      rw [List.cons_append, List.cons_append, stringBody, if_neg hc, ih hbody]
      rfl
  | case4 cs _ =>
      rw [List.cons_append, stringBody_cons hquote, if_pos rfl]
      exact h
  | case6 c cs _ hne hback ih =>
      obtain ⟨⟨body', n'⟩, hbody, heq⟩ := Option.map_eq_some_iff.mp h
      cases heq
      rw [List.cons_append, stringBody_cons hback, if_neg hne, ih hbody]
      rfl
  | _ => exact nomatch h

/-- A string is the same in a longer text. -/
theorem stringLexeme?_before {cs : List Char} {l : Lexeme} (h : stringLexeme? cs = some l)
    (r : List Char) : stringLexeme? (cs ++ r) = some l := by
  cases cs with
  | nil => exact nomatch h
  | cons c cs =>
      rw [stringLexeme?] at h
      rw [List.cons_append, stringLexeme?]
      split at h
      · next hquote =>
          have hc : c ≠ '\\' := by
            rintro rfl
            exact absurd hquote (by decide)
          obtain ⟨⟨body, n⟩, hbody, heq⟩ := Option.map_eq_some_iff.mp h
          rw [if_pos hquote, stringBody_before hc hbody, Option.map_some, heq]
      · exact nomatch h

/-- A name ends where no further part of it follows. -/
theorem nameLexeme?_before {c : Char} (hc : Separates c) {cs : List Char} (hne : cs ≠ [])
    (r : List Char) : nameLexeme? (cs ++ c :: r) = nameLexeme? cs := by
  cases cs with
  | nil => exact absurd rfl hne
  | cons d cs =>
      have htake : (cs ++ c :: r).takeWhile isNamePart = cs.takeWhile isNamePart := by
        have hstop : (c :: r).takeWhile isNamePart = [] :=
          List.takeWhile_cons_of_neg (by rw [hc.1]; exact Bool.false_ne_true)
        rw [List.takeWhile_append, hstop, List.append_nil]
        split
        · next hlen => exact ((List.takeWhile_prefix isNamePart).eq_of_length hlen).symm
        · rfl
      rw [List.cons_append, nameLexeme?, nameLexeme?, htake]

/-- An operator is the same in a longer text, if no equality sign follows. -/
theorem opLexeme?_before {c : Char} (hc : c ≠ '=') {cs : List Char} {l : Lexeme}
    (h : opLexeme? cs = some l) (r : List Char) : opLexeme? (cs ++ c :: r) = some l := by
  unfold opLexeme? at h
  split at h <;> cases h
  all_goals simp only [List.cons_append]
  all_goals try rfl
  -- The operators that an equality sign would make longer.
  all_goals rw [opLexeme?]
  all_goals first
    | rfl
    | exact ne_cons_before hc (by assumption) r
    | exact fun tail => ne_cons_before hc (by assumption) r ('=' :: tail)

/-- Neither a name nor an operator begins with a quote. -/
theorem unquoted_of_word {c : Char} {cs : List Char} {l : Lexeme}
    (h : nameLexeme? (c :: cs) = some l ∨ opLexeme? (c :: cs) = some l) :
    ¬(c = '\'' ∨ c = '"') := by
  rintro (rfl | rfl)
  · rw [nameLexeme?, if_neg (by decide)] at h
    exact h.elim (fun h => nomatch h) (fun h => nomatch h)
  · rw [nameLexeme?, if_neg (by decide)] at h
    exact h.elim (fun h => nomatch h) (fun h => nomatch h)

/-- A lexeme is the same in a longer text, if a character follows with which no lexeme goes on. -/
theorem lexeme?_before {c : Char} (hc : Separates c) {cs : List Char} {l : Lexeme}
    (h : lexeme? cs = some (.ok l)) (r : List Char) : lexeme? (cs ++ c :: r) = some (.ok l) := by
  cases cs with
  | nil => exact nomatch h
  | cons d cs =>
      rw [lexeme?_eq_ok, numberLexeme?_before hc, nameLexeme?_before hc (List.cons_ne_nil d cs)]
      rcases lexeme?_eq_ok.mp h with hn | ⟨hn, hs | ⟨-, hword⟩⟩
      · exact Or.inl hn
      · exact Or.inr ⟨hn, Or.inl (stringLexeme?_before hs _)⟩
      · -- a word does not become a string, since it does not begin with a quote
        have hquote := unquoted_of_word (hword.imp_right And.right)
        have hequal : c ≠ '=' := fun heq => hc.2.2 (by simp [heq])
        refine Or.inr ⟨hn, Or.inr ⟨?_, hword.imp_right fun ⟨hm, ho⟩ =>
          ⟨hm, opLexeme?_before hequal ho r⟩⟩⟩
        rw [List.cons_append, stringLexeme?, if_neg hquote]

/-- **A scan of a text is a scan of a longer one.**  If a character follows with which no lexeme
    goes on, the scan that used up the text stops before that character. -/
theorem Scan.before {p q : Nat} {cs rest : List Char} {ts : List Located}
    (h : Scan p cs ts q rest) {c : Char} (hc : Separates c) (r : List Char) :
    Scan p (cs ++ c :: r) ts q (rest ++ c :: r) := by
  induction h with
  | stop p cs => exact .stop p _
  | blank hb _ ih => exact .blank hb ih
  | @lexeme p q d cs rest ts l hb hl _ ih =>
      -- the character comes after the lexeme, so dropping the lexeme does not reach it
      refine .lexeme hb (lexeme?_before hc hl r) ?_
      rw [← List.drop_append_of_le_length (lexeme?_size hl).2] at ih
      exact ih

/-! ## The tokens of guard text -/

/-- The tokens of guard text are those of the scan that leaves nothing. -/
theorem lex_eq_ok {source : String} {ts : List Located} :
    lex source = .ok ts ↔ ∃ q, Scan 0 source.toList ts q [] :=
  lexFrom_eq_ok

/-- A run of digits that is too long for an integer, with neither a point nor an exponent. -/
def OversizedAt (cs : List Char) : Prop :=
  ∃ digits, mantissaPart cs = some (digits, none) ∧ exponentPart (cs.drop digits.length) = none ∧
    maxIntegerDigits < digits.length

/-- Guard text that has tokens up to where an integer of too many digits stands. -/
def Oversized (source : String) : Prop :=
  ∃ ts q rest, Scan 0 source.toList ts q rest ∧ OversizedAt rest

/-- The one faulty lexeme is an integer of too many digits. -/
theorem lexeme?_oversized {cs : List Char} :
    lexeme? cs = some (.error .oversizedInteger) ↔ OversizedAt cs := by
  rw [lexeme?_eq_error, numberLexeme?_eq, Option.map_eq_some_iff]
  constructor
  · rintro ⟨⟨whole, fraction?⟩, hm, heq⟩
    dsimp only at heq
    split at heq
    · next hexponent =>
        split at heq
        · next hlong => exact ⟨whole, hm, hexponent, hlong⟩
        · exact nomatch heq
    · exact nomatch heq
    · exact nomatch heq
  · rintro ⟨digits, hm, hexponent, hlong⟩
    refine ⟨(digits, none), hm, ?_⟩
    dsimp only
    rw [show cs.drop (mantissaSize digits none) = cs.drop digits.length from rfl, hexponent]
    exact if_pos hlong

/-- No blank is a digit. -/
theorem digitValue?_of_isBlank {c : Char} (h : isBlank c = true) : digitValue? c = none := by
  unfold isBlank inRanges whiteSpaceRanges at h
  simp only [List.any_cons, List.any_nil, Bool.or_false, Bool.or_eq_true, Bool.and_eq_true,
    decide_eq_true_eq] at h
  unfold digitValue?
  generalize c.toNat = n at h ⊢
  by_cases hn : n < 0x80
  · rw [if_pos hn, if_neg (by omega)]
  · rw [if_neg hn]
    have hnone : zeroDigits.find? (fun z => z ≤ n && n < z + 10) = none := by
      rw [List.find?_eq_none]
      intro z hz
      simp only [Bool.and_eq_true, decide_eq_true_eq]
      simp only [zeroDigits, List.mem_cons, List.not_mem_nil, or_false] at hz
      omega
    rw [hnone]
    rfl

/-- A run of digits does not begin with a blank. -/
theorem OversizedAt.not_blank {c : Char} {cs : List Char} (h : OversizedAt (c :: cs)) :
    isBlank c = false := by
  obtain ⟨digits, hm, -, -⟩ := h
  cases hc : isBlank c with
  | false => rfl
  | true =>
      have hspan : spanDigits digitValue? (c :: cs) = ([], c :: cs) := by
        rw [spanDigits, digitValue?_of_isBlank hc]
      have hplain : ∀ r, (spanDigits digitValue? (c :: cs)).2 ≠ '.' :: r := by
        intro r hr
        rw [hspan] at hr
        rw [(List.cons.inj hr).1] at hc
        exact absurd hc (by decide)
      rw [mantissaPart_plain hplain, hspan, if_pos rfl] at hm
      exact nomatch hm

/-- Guard text is refused for its integers just when one of them has too many digits. -/
theorem lex_oversized {source : String} :
    lex source = .error .oversizedInteger ↔ Oversized source := by
  rw [lex, lexFrom_eq_error]
  constructor
  · rintro ⟨ts, q, rest, hscan, hr⟩
    cases hr with
    | faulty _ hl => exact ⟨ts, q, _, hscan, lexeme?_oversized.mp hl⟩
  · rintro ⟨ts, q, rest, hscan, h⟩
    cases rest with
    | nil =>
        obtain ⟨_, hm, -, -⟩ := h
        exact nomatch hm
    | cons c cs =>
        exact ⟨ts, q, _, hscan, .faulty h.not_blank (lexeme?_oversized.mpr h)⟩

end LessonVariants
