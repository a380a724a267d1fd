import LessonVariants.Proofs.Guard.Grammar
import LessonVariants.Proofs.Guard.Scan

/-! # Guard text as sentences

    A text spells words (`Spells`), and what it spells is put together from the words of its
    pieces.  Text denotes the expression that the grammar gives to its words (`Denotes`); parsing
    finds that expression or gives up on nesting (`parseGuard_denotes`, `Denotes.parseGuard`).

    Conjunction, disjunction and negation of guards can therefore be written by putting the texts
    between parentheses and the operators around them. -/

namespace LessonVariants

/-! ## Spelling -/

/-- From wherever a scan of the text starts, it finds the given words and leaves the rest. -/
def Spells (cs : List Char) (ws : List Token) (rest : List Char) : Prop :=
  ∀ p, ∃ ts q, Scan p cs ts q rest ∧ words ts = ws

/-- The words of two pieces, one after the other. -/
theorem Spells.append {cs ds es : List Char} {vs ws : List Token} (h : Spells cs vs ds)
    (h' : Spells ds ws es) : Spells cs (vs ++ ws) es := by
  intro p
  obtain ⟨ts, q, hts, rfl⟩ := h p
  obtain ⟨us, r, hus, rfl⟩ := h' q
  exact ⟨ts ++ us, r, hts.append hus, List.map_append⟩

/-- A blank spells nothing. -/
theorem spells_blank {c : Char} (hc : isBlank c = true) (cs : List Char) :
    Spells (c :: cs) [] cs := by
  intro p
  exact ⟨[], p + 1, .blank hc (.stop _ cs), rfl⟩

/-- A lexeme spells its token. -/
theorem spells_lexeme {c : Char} {cs : List Char} {l : Lexeme} (hc : isBlank c = false)
    (hl : lexeme? (c :: cs) = some (.ok l)) :
    Spells (c :: cs) [l.token] ((c :: cs).drop l.size) := by
  intro p
  exact ⟨[⟨l.token, p⟩], p + l.size, .lexeme hc hl (.stop _ _), rfl⟩

theorem spells_openParen (cs : List Char) : Spells ('(' :: cs) [.op .openParen] cs :=
  spells_lexeme (l := ⟨.op .openParen, 1⟩) rfl rfl

theorem spells_closeParen (cs : List Char) : Spells (')' :: cs) [.op .closeParen] cs :=
  spells_lexeme (l := ⟨.op .closeParen, 1⟩) rfl rfl

theorem spells_and (cs : List Char) : Spells ('&' :: '&' :: cs) [.op .and] cs :=
  spells_lexeme (l := ⟨.op .and, 2⟩) rfl rfl

theorem spells_or (cs : List Char) : Spells ('|' :: '|' :: cs) [.op .or] cs :=
  spells_lexeme (l := ⟨.op .or, 2⟩) rfl rfl

/-- An exclamation mark before a parenthesis is a negation. -/
theorem spells_not (cs : List Char) : Spells ('!' :: '(' :: cs) [.op .not] ('(' :: cs) :=
  spells_lexeme (l := ⟨.op .not, 1⟩) rfl rfl

/-- Guard text spells the same words in front of what does not go on with its last lexeme. -/
theorem spells_before {source : String} {ts : List Located} (h : lex source = .ok ts) {c : Char}
    (hc : Separates c) (r : List Char) : Spells (source.toList ++ c :: r) (words ts) (c :: r) := by
  intro p
  obtain ⟨q, hscan⟩ := lex_eq_ok.mp h
  have hp := (hscan.before hc r).shift p
  rw [Nat.zero_add] at hp
  exact ⟨_, _, hp, by rw [words, words, List.map_map]; rfl⟩

/-- Text that spells words to its end has those words as its tokens. -/
theorem Spells.tokens {source : String} {ws : List Token} (h : Spells source.toList ws []) :
    ∃ ts, lex source = .ok ts ∧ words ts = ws := by
  obtain ⟨ts, q, hscan, hws⟩ := h 0
  exact ⟨ts, lex_eq_ok.mpr ⟨q, hscan⟩, hws⟩

/-- Guard text between parentheses spells a parenthesis, the words of the text and another
    parenthesis. -/
theorem spells_group {source : String} {ts : List Located} (h : lex source = .ok ts)
    (r : List Char) :
    Spells ('(' :: (source.toList ++ ')' :: r))
      (.op .openParen :: (words ts ++ [.op .closeParen])) r :=
  (spells_openParen _).append ((spells_before h (by decide) r).append (spells_closeParen r))

/-! ## Denotation -/

/-- The expression that the grammar gives to the words of a text. -/
def Denotes (source : String) (e : Expr) : Prop :=
  ∃ ts, lex source = .ok ts ∧ Sentence (words ts) e

variable {d k : Nat}

/-- Guard text is split into tokens, and these are parsed. -/
theorem parseGuard_eq_ok {source : String} {e : Expr} :
    parseGuard d source = .ok e ↔ ∃ ts, lex source = .ok ts ∧ parseWithin d ts = .ok e := by
  rw [parseGuard, bind_eq_ok]
  refine exists_congr fun ts => and_congr_right fun _ => ?_
  cases parseWithin d ts with
  | ok f =>
      constructor
      · intro h
        cases h
        rfl
      · intro h
        cases h
        rfl
  | error stop =>
      refine iff_of_false (fun h => ?_) (fun h => nomatch h)
      cases stop with
      | tooDeep => exact nomatch h
      | complaint c rest => cases c <;> exact nomatch h

/-- What is parsed is what the text denotes. -/
theorem parseGuard_denotes {source : String} {e : Expr} (h : parseGuard d source = .ok e) :
    Denotes source e := by
  obtain ⟨ts, hlex, hparse⟩ := parseGuard_eq_ok.mp h
  exact ⟨ts, hlex, parseWithin_sound hparse⟩

/-- Text denotes one expression at most. -/
theorem Denotes.unique {source : String} {e f : Expr} (he : Denotes source e)
    (hf : Denotes source f) : e = f := by
  obtain ⟨ts, hts, he⟩ := he
  obtain ⟨us, hus, hf⟩ := hf
  cases hts.symm.trans hus
  exact Sentence.unique he hf

/-- Within a smaller allowance text is parsed to the same end, or is nested too deeply. -/
theorem parseGuard_cut (hdk : d ≤ k) (source : String) :
    CutAt .tooDeep (parseGuard d source) (parseGuard k source) := by
  unfold parseGuard
  cases lex source with
  | error m => exact Or.inr rfl
  | ok ts =>
      rcases parseWithin_cut hdk ts with h | h
      · refine Or.inl ?_
        simp only [bind, Except.bind, h]
      · refine Or.inr ?_
        simp only [bind, Except.bind, h]

/-- What a text denotes is parsed, unless it is nested too deeply. -/
theorem Denotes.parseGuard {source : String} {e : Expr} (h : Denotes source e) (d : Nat) :
    CutAt .tooDeep (parseGuard d source) (.ok e) := by
  obtain ⟨ts, hlex, hsentence⟩ := h
  have hcut := parseGuard_cut (Nat.le_add_right d (5 * ts.length)) source
  rwa [parseGuard_eq_ok.mpr ⟨ts, hlex, parseWithin_complete hsentence (Nat.le_add_left _ _)⟩] at hcut

/-- Guard text is refused for its integers just when one of them has too many digits. -/
theorem parseGuard_oversized {source : String} :
    parseGuard d source = .error .oversizedInteger ↔ Oversized source := by
  rw [parseGuard, bind_eq_error, lex_oversized]
  refine or_iff_left ?_
  rintro ⟨ts, -, h⟩
  cases hts : parseWithin d ts with
  | ok e => rw [hts] at h; exact nomatch h
  | error stop =>
      rw [hts] at h
      cases stop with
      | tooDeep => exact nomatch h
      | complaint c rest => cases c <;> exact nomatch h

/-- Blanks have no tokens. -/
theorem lexFrom_blanks {cs : List Char} (h : cs.all isBlank = true) (p : Nat) :
    lexFrom p 0 cs = .ok [] := by
  induction cs generalizing p with
  | nil => rfl
  | cons c cs ih =>
      rw [List.all_cons, Bool.and_eq_true] at h
      rw [lexFrom_blank h.1, ih h.2]

/-- Blank text is refused as empty. -/
theorem parseGuard_blank {source : String} (h : isBlankText source = true) :
    parseGuard d source = .error (.complaint .emptyExpression 0) := by
  have hlex : lex source = .ok [] := lexFrom_blanks h 0
  rw [parseGuard, hlex]
  rfl

/-- Text that denotes an expression is not blank. -/
theorem Denotes.not_blank {source : String} {e : Expr} (h : Denotes source e) :
    isBlankText source = false := by
  obtain ⟨ts, hlex, hsentence⟩ := h
  cases hblank : isBlankText source with
  | false => rfl
  | true =>
      cases hlex.symm.trans (lexFrom_blanks hblank 0)
      exact absurd rfl (Phrase.ne_nil hsentence)

/-- What is parsed is not blank. -/
theorem not_blank_of_parseGuard {source : String} {e : Expr} (h : parseGuard d source = .ok e) :
    isBlankText source = false :=
  (parseGuard_denotes h).not_blank

/-- Text with an integer of too many digits is not blank. -/
theorem Oversized.not_blank {source : String} (h : Oversized source) :
    isBlankText source = false := by
  cases hblank : isBlankText source with
  | false => rfl
  | true =>
      have hparse : parseGuard 0 source = _ := parseGuard_oversized.mpr h
      rw [parseGuard_blank hblank] at hparse
      exact nomatch hparse

/-! ## Guards put together -/

/-- Two guard texts joined by `&&`, each between parentheses. -/
def bothText (A B : String) : String :=
  "(" ++ A ++ ") && (" ++ B ++ ")"

/-- Two guard texts joined by `||`, each between parentheses. -/
def eitherText (A B : String) : String :=
  "(" ++ A ++ ") || (" ++ B ++ ")"

/-- A guard text between parentheses, negated. -/
def negatedText (A : String) : String :=
  "!(" ++ A ++ ")"

/-- Two texts between parentheses, with an operator of two equal characters between them. -/
theorem spells_joined {A B : String} {ts us : List Located} (hA : lex A = .ok ts)
    (hB : lex B = .ok us) {c : Char} {o : Op} (ho : ∀ cs, Spells (c :: c :: cs) [.op o] cs) :
    Spells ('(' :: (A.toList ++ ')' :: ' ' :: c :: c :: ' ' :: '(' :: (B.toList ++ [')'])))
      ((.op .openParen :: (words ts ++ [.op .closeParen])) ++
        .op o :: (.op .openParen :: (words us ++ [.op .closeParen]))) [] :=
  (spells_group hA _).append <| (spells_blank rfl _).append <| (ho _).append <|
    (spells_blank rfl _).append <| spells_group hB []

/-- The conjunction of two texts denotes the conjunction of what they denote. -/
theorem Denotes.both {A B : String} {e f : Expr} (hA : Denotes A e) (hB : Denotes B f) :
    Denotes (bothText A B) (.and e f) := by
  obtain ⟨ts, hlexA, he⟩ := hA
  obtain ⟨us, hlexB, hf⟩ := hB
  have hchars : (bothText A B).toList
      = '(' :: (A.toList ++ ')' :: ' ' :: '&' :: '&' :: ' ' :: '(' :: (B.toList ++ [')'])) := by
    simp [bothText]
  have hspells := spells_joined hlexA hlexB spells_and
  rw [← hchars] at hspells
  obtain ⟨vs, hlex, hws⟩ := hspells.tokens
  refine ⟨vs, hlex, ?_⟩
  rw [hws]
  exact .oneConjunction (.and (.oneComparison (.oneOperand (.group he))) (.oneOperand (.group hf)))

/-- The disjunction of two texts denotes the disjunction of what they denote. -/
theorem Denotes.either {A B : String} {e f : Expr} (hA : Denotes A e) (hB : Denotes B f) :
    Denotes (eitherText A B) (.or e f) := by
  obtain ⟨ts, hlexA, he⟩ := hA
  obtain ⟨us, hlexB, hf⟩ := hB
  have hchars : (eitherText A B).toList
      = '(' :: (A.toList ++ ')' :: ' ' :: '|' :: '|' :: ' ' :: '(' :: (B.toList ++ [')'])) := by
    simp [eitherText]
  have hspells := spells_joined hlexA hlexB spells_or
  rw [← hchars] at hspells
  obtain ⟨vs, hlex, hws⟩ := hspells.tokens
  refine ⟨vs, hlex, ?_⟩
  rw [hws]
  exact .or (.oneConjunction (.oneComparison (.oneOperand (.group he))))
    (.oneComparison (.oneOperand (.group hf)))

/-- The negation of a text denotes the negation of what it denotes. -/
theorem Denotes.negated {A : String} {e : Expr} (hA : Denotes A e) :
    Denotes (negatedText A) (.not e) := by
  obtain ⟨ts, hlexA, he⟩ := hA
  have hspells : Spells (negatedText A).toList
      ([.op .not] ++ (.op .openParen :: (words ts ++ [.op .closeParen]))) [] := by
    have hchars : (negatedText A).toList = '!' :: '(' :: (A.toList ++ [')']) := by
      simp [negatedText]
    rw [hchars]
    exact (spells_not _).append (spells_group hlexA [])
  obtain ⟨vs, hlex, hws⟩ := hspells.tokens
  refine ⟨vs, hlex, ?_⟩
  rw [hws]
  exact .oneConjunction (.oneComparison (.oneOperand (.not (.group he))))

end LessonVariants
