import LessonVariants.Proofs.Outcome

/-! # The grammar of guards

    The grammar is a relation between token lists and expressions, one level of binding at a time.
    It knows nothing of positions, of the order in which a parser looks at tokens, or of a bound
    on nesting.

    The parser and the grammar agree.  What the parser takes is a phrase, and what it returns is the
    expression of that phrase (`operand_sound`, `disjunction_sound`).  What the grammar derives, the
    parser reads, whatever follows, as long as the next token does not continue the phrase
    (`Phrase.reads`).  The bound on nesting can only cut a reading short (`parseWithin_cut`), and
    only that of a long list (`parseWithin_ne_tooDeep`).  So a token list denotes what the grammar
    says, or is nested too deeply for the allowance (`parseWithin_accepts_grammar`). -/

namespace LessonVariants

/-- The tokens of a list without their positions. -/
def words (ts : List Located) : List Token :=
  ts.map Located.token

/-- A token list that begins with a token. -/
theorem words_eq_cons {us : List Located} {t : Token} {ts : List Token} (h : words us = t :: ts) :
    ∃ p vs, us = ⟨t, p⟩ :: vs ∧ words vs = ts := by
  cases us with
  | nil => exact nomatch h
  | cons u us =>
      obtain ⟨token, p⟩ := u
      cases h
      exact ⟨p, us, rfl, rfl⟩

/-- A token list with a token in the midst of it. -/
theorem words_eq_append {us : List Located} {ts : List Token} {t : Token} {ts' : List Token}
    (h : words us = ts ++ t :: ts') :
    ∃ vs p ws, us = vs ++ ⟨t, p⟩ :: ws ∧ words vs = ts ∧ words ws = ts' := by
  obtain ⟨vs, ws, rfl, hvs, hws⟩ := List.map_eq_append_iff.mp h
  obtain ⟨p, ws, rfl, hws'⟩ := words_eq_cons hws
  exact ⟨vs, p, ws, rfl, hvs, hws'⟩

/-- The levels of binding, from the tightest to the loosest. -/
inductive Level where
  | operand | comparison | conjunction | disjunction
  deriving DecidableEq

/-- The tokens that are constants by themselves. -/
inductive Constant : Token → Literal → Prop where
  | number (n : Numeral) : Constant (.number n) (.number n)
  | string (s : String) : Constant (.string s) (.text s)
  | yes : Constant (.name "true") (.bool true)
  | no : Constant (.name "false") (.bool false)
  | null : Constant (.name "null") .null

/-- The steps of a path.  Any name may follow a point, also one that is a keyword elsewhere. -/
inductive Steps : List Token → List Segment → Prop where
  | done : Steps [] []
  | property (s : String) {ts : List Token} {ss : List Segment} :
      Steps ts ss → Steps (.op .dot :: .name s :: ts) (.key s :: ss)
  | key (s : String) {ts : List Token} {ss : List Segment} :
      Steps ts ss → Steps (.op .openBracket :: .string s :: .op .closeBracket :: ts) (.key s :: ss)
  | index (n : Numeral) {ts : List Token} {ss : List Segment} :
      Steps ts ss →
      Steps (.op .openBracket :: .number n :: .op .closeBracket :: ts) (.index n :: ss)

/-- The phrases of each level, with the expressions that they denote.  Chains of conjunctions and
    of disjunctions lean to the left; a comparison joins two operands at most. -/
inductive Phrase : Level → List Token → Expr → Prop where
  | constant {t : Token} {l : Literal} : Constant t l → Phrase .operand [t] (.literal l)
  | path (r : Root) {ts : List Token} {ss : List Segment} :
      Steps ts ss → Phrase .operand (.name r.text :: ts) (.path r ss)
  | not {ts : List Token} {e : Expr} :
      Phrase .operand ts e → Phrase .operand (.op .not :: ts) (.not e)
  | negate {ts : List Token} {e : Expr} :
      Phrase .operand ts e → Phrase .operand (.op .minus :: ts) (.negate e)
  | group {ts : List Token} {e : Expr} :
      Phrase .disjunction ts e →
      Phrase .operand (.op .openParen :: (ts ++ [.op .closeParen])) e
  | oneOperand {ts : List Token} {e : Expr} : Phrase .operand ts e → Phrase .comparison ts e
  | compare (c : Comparator) {ts us : List Token} {e f : Expr} :
      Phrase .operand ts e → Phrase .operand us f →
      Phrase .comparison (ts ++ .op (.compare c) :: us) (.compare c e f)
  | oneComparison {ts : List Token} {e : Expr} :
      Phrase .comparison ts e → Phrase .conjunction ts e
  | and {ts us : List Token} {e f : Expr} :
      Phrase .conjunction ts e → Phrase .comparison us f →
      Phrase .conjunction (ts ++ .op .and :: us) (.and e f)
  | oneConjunction {ts : List Token} {e : Expr} :
      Phrase .conjunction ts e → Phrase .disjunction ts e
  | or {ts us : List Token} {e f : Expr} :
      Phrase .disjunction ts e → Phrase .conjunction us f →
      Phrase .disjunction (ts ++ .op .or :: us) (.or e f)

/-- A whole guard is a disjunction. -/
def Sentence (ts : List Token) (e : Expr) : Prop :=
  Phrase .disjunction ts e

/-! ## Words of the parser in terms of the grammar -/

/-- The keywords are the names that are constants. -/
theorem keyword?_eq_some {s : String} {l : Literal} :
    keyword? s = some l ↔ Constant (.name s) l := by
  constructor
  · intro h
    unfold keyword? at h
    split at h
    · next hs => subst hs; cases h; exact .yes
    · split at h
      · next hs => subst hs; cases h; exact .no
      · split at h
        · next hs => subst hs; cases h; exact .null
        · exact nomatch h
  · intro h
    cases h <;> rfl

/-- The roots are found by their written forms. -/
theorem Root.ofName?_text (r : Root) : Root.ofName? r.text = some r := by
  cases r <;> rfl

/-- What is found by a name is written by that name. -/
theorem Root.text_of_ofName? {s : String} {r : Root} (h : Root.ofName? s = some r) :
    r.text = s := by
  have hs := List.find?_some h
  exact beq_iff_eq.mp hs

/-- No root is a keyword. -/
theorem Root.keyword?_text (r : Root) : keyword? r.text = none := by
  cases r <;> rfl

/-! ## What is returned is what the grammar says -/

/-- A parser is sound for a level: what it takes from the front is a phrase of that level. -/
def SoundFor (l : Level) (p : Parser Expr) : Prop :=
  ∀ ts e rest, p ts = .ok (e, rest) → ∃ us, ts = us ++ rest ∧ Phrase l (words us) e

/-- The steps of a path that are read are steps of the grammar. -/
theorem segments_sound {ts rest : List Located} {ss : List Segment}
    (h : segments ts = .ok (ss, rest)) : ∃ us, ts = us ++ rest ∧ Steps (words us) ss := by
  fun_induction segments ts generalizing ss with
  | case1 p s q ts ih =>
      obtain ⟨⟨ss', rest'⟩, hs, heq⟩ := map_eq_ok.mp h
      cases heq
      obtain ⟨us, rfl, hus⟩ := ih hs
      exact ⟨⟨.op .dot, p⟩ :: ⟨.name s, q⟩ :: us, rfl, .property s hus⟩
  | case3 p s q r ts ih =>
      obtain ⟨⟨ss', rest'⟩, hs, heq⟩ := map_eq_ok.mp h
      cases heq
      obtain ⟨us, rfl, hus⟩ := ih hs
      exact ⟨⟨.op .openBracket, p⟩ :: ⟨.string s, q⟩ :: ⟨.op .closeBracket, r⟩ :: us, rfl,
        .key s hus⟩
  | case4 p n q r ts ih =>
      obtain ⟨⟨ss', rest'⟩, hs, heq⟩ := map_eq_ok.mp h
      cases heq
      obtain ⟨us, rfl, hus⟩ := ih hs
      exact ⟨⟨.op .openBracket, p⟩ :: ⟨.number n, q⟩ :: ⟨.op .closeBracket, r⟩ :: us, rfl,
        .index n hus⟩
  | case8 ts =>
      cases h
      exact ⟨[], rfl, .done⟩
  | _ => exact nomatch h

/-- Constants and paths are operands. -/
theorem primary_sound : SoundFor .operand primary := by
  intro ts e rest h
  cases ts with
  | nil => exact nomatch h
  | cons t ts =>
      obtain ⟨token, p⟩ := t
      cases token with
      | number n =>
          cases h
          exact ⟨[⟨.number n, p⟩], rfl, .constant (.number n)⟩
      | string s =>
          cases h
          exact ⟨[⟨.string s, p⟩], rfl, .constant (.string s)⟩
      | op o => exact nomatch h
      | name s =>
          -- a name is looked for among the keywords first, and among the roots only then
          simp only [primary] at h
          cases hk : keyword? s with
          | some l =>
              rw [hk] at h
              cases h
              exact ⟨[⟨.name s, p⟩], rfl, .constant (keyword?_eq_some.mp hk)⟩
          | none =>
              rw [hk] at h
              cases hr : Root.ofName? s with
              | none =>
                  rw [hr] at h
                  exact nomatch h
              | some r =>
                  rw [hr] at h
                  obtain ⟨⟨ss, rest'⟩, hs, heq⟩ := map_eq_ok.mp h
                  cases heq
                  obtain ⟨us, rfl, hus⟩ := segments_sound hs
                  refine ⟨⟨.name s, p⟩ :: us, rfl, ?_⟩
                  rw [show words (⟨.name s, p⟩ :: us) = .name s :: words us from rfl,
                    ← Root.text_of_ofName? hr]
                  exact .path r hus

/-- One operand, or two and an operator, are a comparison. -/
theorem comparison_sound {p : Parser Expr} (hp : SoundFor .operand p) :
    SoundFor .comparison (comparison p) := by
  intro ts e rest h
  obtain ⟨⟨left, rest₁⟩, h₁, h₂⟩ := bind_eq_ok.mp h
  obtain ⟨us, rfl, hus⟩ := hp ts left rest₁ h₁
  dsimp only at h₂
  split at h₂
  · next c q rest₂ =>
      obtain ⟨⟨right, rest₃⟩, h₃, h₄⟩ := bind_eq_ok.mp h₂
      cases h₄
      obtain ⟨vs, rfl, hvs⟩ := hp rest₂ right _ h₃
      refine ⟨us ++ ⟨.op (.compare c), q⟩ :: vs, by simp, ?_⟩
      rw [show words (us ++ ⟨.op (.compare c), q⟩ :: vs)
        = words us ++ .op (.compare c) :: words vs by simp [words]]
      exact .compare c hus hvs
  · cases h₂
    exact ⟨us, rfl, .oneOperand hus⟩

/-- A chain takes another term after its separator. -/
theorem chain_step {separator : Op} {join : Expr → Expr → Expr} {p : Parser Expr} (n q : Nat)
    (left : Expr) (ts : List Located) :
    chain separator join p (n + 1) left (⟨.op separator, q⟩ :: ts)
      = p ts >>= fun r => chain separator join p n (join left r.1) r.2 := by
  rw [chain]
  dsimp only
  rw [if_pos rfl]

/-- A chain is over where its separator does not follow. -/
theorem chain_over {separator : Op} {join : Expr → Expr → Expr} {p : Parser Expr}
    {ts : List Located} (h : ¬∃ q us, ts = ⟨.op separator, q⟩ :: us) (n : Nat) (left : Expr) :
    chain separator join p n left ts = .ok (left, ts) := by
  cases n with
  | zero => rfl
  | succ n =>
      unfold chain
      split
      · next o q us => exact if_neg fun ho => h ⟨q, us, by rw [ho]⟩
      · rfl

/-- A chain extends the phrase on its left, if joining another term gives such a phrase again. -/
theorem chain_sound {l m : Level} {separator : Op} {join : Expr → Expr → Expr} {p : Parser Expr}
    (hp : SoundFor m p)
    (hjoin : ∀ {ts us e f}, Phrase l ts e → Phrase m us f →
      Phrase l (ts ++ .op separator :: us) (join e f)) :
    ∀ (n : Nat) (left : Expr) (done ts rest : List Located) (e : Expr),
      Phrase l (words done) left → chain separator join p n left ts = .ok (e, rest) →
      ∃ us, ts = us ++ rest ∧ Phrase l (words (done ++ us)) e := by
  -- the induction is on the bound; `done` is what the chain has read, and `left` its expression
  intro n
  induction n with
  | zero =>
      intro left done ts rest e hleft h
      cases h
      exact ⟨[], rfl, by rw [List.append_nil]; exact hleft⟩
  | succ n ih =>
      intro left done ts rest e hleft h
      by_cases hsep : ∃ q us, ts = ⟨.op separator, q⟩ :: us
      · obtain ⟨q, ts, rfl⟩ := hsep
        rw [chain_step] at h
        obtain ⟨⟨right, rest₁⟩, h₁, h₂⟩ := bind_eq_ok.mp h
        obtain ⟨us, rfl, hus⟩ := hp ts right rest₁ h₁
        have hdone : Phrase l (words (done ++ ⟨.op separator, q⟩ :: us)) (join left right) := by
          rw [show words (done ++ ⟨.op separator, q⟩ :: us)
            = words done ++ .op separator :: words us by simp [words]]
          exact hjoin hleft hus
        obtain ⟨vs, rfl, hvs⟩ := ih _ _ _ _ _ hdone h₂
        exact ⟨⟨.op separator, q⟩ :: us ++ vs, by simp, by simpa using hvs⟩
      · rw [chain_over hsep] at h
        cases h
        exact ⟨[], rfl, by rw [List.append_nil]; exact hleft⟩

/-- Comparisons joined by `&&` are a conjunction. -/
theorem conjunction_sound {p : Parser Expr} (hp : SoundFor .operand p) :
    SoundFor .conjunction (conjunction p) := by
  intro ts e rest h
  obtain ⟨⟨left, rest₁⟩, h₁, h₂⟩ := bind_eq_ok.mp h
  obtain ⟨us, rfl, hus⟩ := comparison_sound hp ts left rest₁ h₁
  obtain ⟨vs, rfl, hvs⟩ :=
    chain_sound (comparison_sound hp) .and _ _ us _ _ _ (.oneComparison hus) h₂
  exact ⟨us ++ vs, by simp, hvs⟩

/-- Conjunctions joined by `||` are a disjunction. -/
theorem disjunction_sound {p : Parser Expr} (hp : SoundFor .operand p) :
    SoundFor .disjunction (disjunction p) := by
  intro ts e rest h
  obtain ⟨⟨left, rest₁⟩, h₁, h₂⟩ := bind_eq_ok.mp h
  obtain ⟨us, rfl, hus⟩ := conjunction_sound hp ts left rest₁ h₁
  obtain ⟨vs, rfl, hvs⟩ :=
    chain_sound (conjunction_sound hp) .or _ _ us _ _ _ (.oneConjunction hus) h₂
  exact ⟨us ++ vs, by simp, hvs⟩

/-- A group ends with its parenthesis. -/
theorem closing_eq_ok {e f : Expr} {ts rest : List Located} (h : closing e ts = .ok (f, rest)) :
    f = e ∧ ∃ p, ts = ⟨.op .closeParen, p⟩ :: rest := by
  unfold closing at h
  split at h
  · next p rest' =>
      cases h
      exact ⟨rfl, p, rfl⟩
  · exact nomatch h

/-- A missing parenthesis is no matter of nesting. -/
theorem closing_ne_tooDeep (e : Expr) (ts : List Located) : closing e ts ≠ .error .tooDeep := by
  unfold closing
  split
  · exact fun h => nomatch h
  · exact fun h => nomatch h

/-- What is read as an operand is one, within any allowance. -/
theorem operand_sound (d : Nat) : SoundFor .operand (operand d) := by
  induction d using Nat.strongRecOn with
  | ind d ih =>
      intro ts e rest h
      cases d with
      | zero => exact nomatch h
      | succ d =>
          -- a group spends several levels at once, so the induction is over all smaller allowances
          unfold operand at h
          split at h
          · next q ts =>
              obtain ⟨⟨f, rest₁⟩, h₁, heq⟩ := map_eq_ok.mp h
              cases heq
              obtain ⟨us, rfl, hus⟩ := ih d (Nat.lt_succ_self d) ts f _ h₁
              exact ⟨⟨.op .not, q⟩ :: us, rfl, .not hus⟩
          · next q ts =>
              obtain ⟨⟨f, rest₁⟩, h₁, heq⟩ := map_eq_ok.mp h
              cases heq
              obtain ⟨us, rfl, hus⟩ := ih d (Nat.lt_succ_self d) ts f _ h₁
              exact ⟨⟨.op .minus, q⟩ :: us, rfl, .negate hus⟩
          · next q ts =>
              split at h
              · next k =>
                  obtain ⟨⟨f, rest₁⟩, h₁, h₂⟩ := bind_eq_ok.mp h
                  obtain ⟨us, rfl, hus⟩ :=
                    disjunction_sound (ih k (by omega)) ts f rest₁ h₁
                  obtain ⟨rfl, r, rfl⟩ := closing_eq_ok h₂
                  refine ⟨⟨.op .openParen, q⟩ :: (us ++ [⟨.op .closeParen, r⟩]), by simp, ?_⟩
                  rw [show words (⟨.op .openParen, q⟩ :: (us ++ [⟨.op .closeParen, r⟩]))
                    = .op .openParen :: (words us ++ [.op .closeParen]) by simp [words]]
                  exact .group hus
              · exact nomatch h
          · exact primary_sound ts e rest h

/-! ## What the grammar derives is read -/

/-- Whether an operator continues a phrase of a level that stands before it. -/
def Op.continues : Op → Level → Bool
  | .dot,         _            => true
  | .openBracket, _            => true
  | .compare _,   .operand     => false
  | .compare _,   _            => true
  | .and,         .conjunction => true
  | .and,         .disjunction => true
  | .or,          .disjunction => true
  | _,            _            => false

/-- The tokens that remain do not continue a phrase of the level. -/
def Halts (l : Level) : List Located → Prop
  | ⟨.op o, _⟩ :: _ => o.continues l = false
  | _               => True

/-- What does not continue a looser phrase does not continue a tighter one. -/
theorem Halts.tighter {l m : Level} {ts : List Located}
    (hlm : ∀ o : Op, o.continues m = true → o.continues l = true) (h : Halts l ts) :
    Halts m ts := by
  cases ts with
  | nil => exact trivial
  | cons t ts =>
      obtain ⟨token, p⟩ := t
      cases token with
      | op o =>
          cases hm : o.continues m with
          | false => exact hm
          | true => exact absurd (hlm o hm) (by rw [show o.continues l = false from h]; simp)
      | _ => exact trivial

theorem Op.continues_comparison (o : Op) (h : o.continues .operand = true) :
    o.continues .comparison = true := by
  cases o <;> first | rfl | exact nomatch h

theorem Op.continues_conjunction (o : Op) (h : o.continues .comparison = true) :
    o.continues .conjunction = true := by
  cases o <;> first | rfl | exact nomatch h

/-- The parser of a level, given the parser of operands. -/
def Level.parse (p : Parser Expr) : Level → Parser Expr
  | .operand     => p
  | .comparison  => LessonVariants.comparison p
  | .conjunction => LessonVariants.conjunction p
  | .disjunction => LessonVariants.disjunction p

/-- How the parser of a level goes on after a phrase of that level: chains look for further terms. -/
def Level.resume (p : Parser Expr) (e : Expr) : Level → Parser Expr
  | .operand,     ts => .ok (e, ts)
  | .comparison,  ts => .ok (e, ts)
  | .conjunction, ts => chain .and .and (LessonVariants.comparison p) ts.length e ts
  | .disjunction, ts => chain .or .or (LessonVariants.conjunction p) ts.length e ts

/-- The level whose phrases must be over where a phrase of the given level ends.  Of a chain this is
    the level of its terms, since the chain itself may go on. -/
def Level.terms : Level → Level
  | .operand     => .operand
  | .comparison  => .comparison
  | .conjunction => .comparison
  | .disjunction => .conjunction

/-- A path ends where no step follows. -/
theorem segments_halt {ts : List Located} (h : Halts .operand ts) : segments ts = .ok ([], ts) := by
  cases ts with
  | nil => rfl
  | cons t ts =>
      obtain ⟨token, p⟩ := t
      cases token with
      | op o => cases o <;> first | rfl | exact nomatch h
      | _ => rfl

/-- The steps of the grammar are read as the steps of a path. -/
theorem Steps.parsed {ts : List Token} {ss : List Segment} (h : Steps ts ss) :
    ∀ {us rest : List Located}, words us = ts → Halts .operand rest →
      segments (us ++ rest) = .ok (ss, rest) := by
  induction h with
  | done =>
      intro us rest hus hrest
      obtain rfl := List.map_eq_nil_iff.mp hus
      exact segments_halt hrest
  | property s _ ih =>
      intro us rest hus hrest
      obtain ⟨p, us, rfl, h₁⟩ := words_eq_cons hus
      obtain ⟨q, us, rfl, h₂⟩ := words_eq_cons h₁
      rw [List.cons_append, List.cons_append, segments, ih h₂ hrest]
      rfl
  | key s _ ih =>
      intro us rest hus hrest
      obtain ⟨p, us, rfl, h₁⟩ := words_eq_cons hus
      obtain ⟨q, us, rfl, h₂⟩ := words_eq_cons h₁
      obtain ⟨r, us, rfl, h₃⟩ := words_eq_cons h₂
      rw [List.cons_append, List.cons_append, List.cons_append, segments, ih h₃ hrest]
      rfl
  | index n _ ih =>
      intro us rest hus hrest
      obtain ⟨p, us, rfl, h₁⟩ := words_eq_cons hus
      obtain ⟨q, us, rfl, h₂⟩ := words_eq_cons h₁
      obtain ⟨r, us, rfl, h₃⟩ := words_eq_cons h₂
      rw [List.cons_append, List.cons_append, List.cons_append, segments, ih h₃ hrest]
      rfl

/-- The steps of a path are not nested. -/
theorem segments_ne_tooDeep (ts : List Located) : segments ts ≠ .error .tooDeep := by
  fun_induction segments ts with
  | case1 p s q ts ih => exact fun h => ih (map_eq_error.mp h)
  | case3 p s q r ts ih => exact fun h => ih (map_eq_error.mp h)
  | case4 p n q r ts ih => exact fun h => ih (map_eq_error.mp h)
  | _ => exact fun h => nomatch h

/-- A chain is over where its level is. -/
theorem chain_halt {separator : Op} {join : Expr → Expr → Expr} {p : Parser Expr} {l : Level}
    (hs : separator.continues l = true) {ts : List Located} (h : Halts l ts) (n : Nat)
    (left : Expr) : chain separator join p n left ts = .ok (left, ts) := by
  refine chain_over ?_ n left
  rintro ⟨q, us, rfl⟩
  exact Bool.noConfusion (hs.symm.trans h)

/-- The number that bounds a chain does not matter, if it is not below the number of tokens. -/
theorem chain_enough {separator : Op} {join : Expr → Expr → Expr} {m : Level} {p : Parser Expr}
    (hp : SoundFor m p) :
    ∀ (n k : Nat) (left : Expr) (ts : List Located), ts.length ≤ n → ts.length ≤ k →
      chain separator join p n left ts = chain separator join p k left ts := by
  intro n
  induction n with
  | zero =>
      intro k left ts hn hk
      obtain rfl := List.length_eq_zero_iff.mp (Nat.le_zero.mp hn)
      cases k <;> rfl
  | succ n ih =>
      intro k left ts hn hk
      by_cases hsep : ∃ q us, ts = ⟨.op separator, q⟩ :: us
      · obtain ⟨q, ts, rfl⟩ := hsep
        simp only [List.length_cons] at hn hk
        obtain ⟨k, rfl⟩ : ∃ j, k = j + 1 := ⟨k - 1, by omega⟩
        rw [chain_step, chain_step]
        cases hr : p ts with
        | error e => rfl
        | ok r =>
            -- what a term leaves is no longer than the list, so both bounds suffice again
            obtain ⟨right, rest⟩ := r
            obtain ⟨us, rfl, -⟩ := hp ts right rest hr
            simp only [List.length_append] at hn hk
            exact ih k (join left right) rest (by omega) (by omega)
      · rw [chain_over hsep, chain_over hsep]

/-- A chain that has come to its separator goes on behind the next term. -/
theorem chain_resume {separator : Op} {join : Expr → Expr → Expr} {m : Level} {p : Parser Expr}
    (hp : SoundFor m p) (q : Nat) (left : Expr) {right : Expr} {ts rest : List Located}
    (h : p ts = .ok (right, rest)) :
    chain separator join p (ts.length + 1) left (⟨.op separator, q⟩ :: ts)
      = chain separator join p rest.length (join left right) rest := by
  rw [chain_step, h]
  obtain ⟨us, rfl, -⟩ := hp ts right rest h
  exact chain_enough hp _ _ _ _ (by simp) (Nat.le_refl _)

/-- An operand of one token or a path goes to `primary`. -/
theorem operand_primary {t : Token} (ht : ∀ o : Op, t ≠ .op o) (d p : Nat) (ts : List Located) :
    operand (d + 1) (⟨t, p⟩ :: ts) = primary (⟨t, p⟩ :: ts) := by
  cases t with
  | op o => exact absurd rfl (ht o)
  | _ => rfl

/-- A constant is read as it stands. -/
theorem Constant.parsed {t : Token} {l : Literal} (h : Constant t l) (p : Nat)
    (rest : List Located) : primary (⟨t, p⟩ :: rest) = .ok (.literal l, rest) := by
  cases h <;> rfl

/-- Nothing follows an operator at a level where it stands between two phrases. -/
theorem halts_of_op {o : Op} {l : Level} {p : Nat} {ts : List Located}
    (h : o.continues l = false) : Halts l (⟨.op o, p⟩ :: ts) :=
  h

/-- Within an allowance, words are read as an expression of a level, whatever follows that does not
    continue its terms. -/
def Reads (d : Nat) (l : Level) (ws : List Token) (e : Expr) : Prop :=
  ∀ us rest : List Located, words us = ws → Halts l.terms rest →
    l.parse (operand d) (us ++ rest) = l.resume (operand d) e rest

section

variable {d : Nat} {ws vs : List Token} {e f : Expr}

/-! ### Operands -/

/-- A constant takes one level. -/
theorem Constant.reads {t : Token} {l : Literal} (h : Constant t l) (d : Nat) :
    Reads (d + 1) .operand [t] (.literal l) := by
  intro us rest hus _
  obtain ⟨p, us, rfl, hnil⟩ := words_eq_cons hus
  obtain rfl := List.map_eq_nil_iff.mp hnil
  have ht : ∀ o : Op, t ≠ .op o := by
    rintro o rfl
    cases h
  exact (operand_primary ht d p rest).trans (h.parsed p rest)

/-- A path takes one level, whatever its length. -/
theorem Steps.reads {ss : List Segment} (h : Steps ws ss) (r : Root) (d : Nat) :
    Reads (d + 1) .operand (.name r.text :: ws) (.path r ss) := by
  intro us rest hus hrest
  obtain ⟨p, us, rfl, hsteps⟩ := words_eq_cons hus
  show operand (d + 1) (⟨.name r.text, p⟩ :: (us ++ rest)) = .ok (.path r ss, rest)
  rw [operand_primary (by intro o h; cases h), primary]
  dsimp only
  rw [Root.keyword?_text, Root.ofName?_text]
  dsimp only
  rw [h.parsed hsteps hrest]
  rfl

/-- A prefix operator takes one level more than its operand. -/
theorem Reads.prefixed {o : Op} {wrap : Expr → Expr}
    (hstep : ∀ p ts, operand (d + 1) (⟨.op o, p⟩ :: ts)
      = (operand d ts).map fun r => (wrap r.1, r.2))
    (h : Reads d .operand ws e) : Reads (d + 1) .operand (.op o :: ws) (wrap e) := by
  intro us rest hus hrest
  obtain ⟨p, us, rfl, hoperand⟩ := words_eq_cons hus
  have hread : operand d (us ++ rest) = .ok (e, rest) := h us rest hoperand hrest
  show operand (d + 1) (⟨.op o, p⟩ :: (us ++ rest)) = .ok (wrap e, rest)
  rw [hstep, hread]
  rfl

/-- A group takes five levels more than what stands in it. -/
theorem Reads.group (h : Reads d .disjunction ws e) :
    Reads (d + 5) .operand (.op .openParen :: (ws ++ [.op .closeParen])) e := by
  intro us rest hus _
  obtain ⟨p, us, rfl, hinner⟩ := words_eq_cons hus
  obtain ⟨us, q, vs, rfl, hwords, hnil⟩ := words_eq_append hinner
  obtain rfl := List.map_eq_nil_iff.mp hnil
  -- a closing parenthesis continues no level, so the group is read up to it
  have hread : disjunction (operand d) (us ++ ⟨.op .closeParen, q⟩ :: rest)
      = .ok (e, ⟨.op .closeParen, q⟩ :: rest) :=
    (h us _ hwords (halts_of_op rfl)).trans
      (chain_halt (l := .disjunction) rfl (halts_of_op rfl) _ e)
  show operand (d + 5) (⟨.op .openParen, p⟩ :: (us ++ [⟨.op .closeParen, q⟩] ++ rest))
    = .ok (e, rest)
  rw [List.append_assoc, List.singleton_append]
  show (disjunction (operand d) (us ++ ⟨.op .closeParen, q⟩ :: rest)
      >>= fun r => closing r.1 r.2) = .ok (e, rest)
  rw [hread]
  rfl

/-! ### Comparisons -/

/-- An operand that no comparison operator follows is a comparison by itself. -/
theorem Reads.oneOperand (h : Reads d .operand ws e) : Reads d .comparison ws e := by
  intro us rest hus hrest
  have hread : operand d (us ++ rest) = .ok (e, rest) :=
    h us rest hus (hrest.tighter Op.continues_comparison)
  show comparison (operand d) (us ++ rest) = .ok (e, rest)
  rw [comparison, hread]
  cases rest with
  | nil => rfl
  | cons t rest =>
      obtain ⟨token, p⟩ := t
      cases token with
      | op o => cases o <;> first | rfl | exact nomatch hrest
      | _ => rfl

/-- A comparison is read in the allowance of its operands. -/
theorem Reads.compare (c : Comparator) (h : Reads d .operand ws e) (h' : Reads d .operand vs f) :
    Reads d .comparison (ws ++ .op (.compare c) :: vs) (.compare c e f) := by
  intro us rest hus hrest
  obtain ⟨us, p, us', rfl, hleft, hright⟩ := words_eq_append hus
  have hfirst : operand d (us ++ ⟨.op (.compare c), p⟩ :: (us' ++ rest))
      = .ok (e, ⟨.op (.compare c), p⟩ :: (us' ++ rest)) := h us _ hleft (halts_of_op rfl)
  have hsecond : operand d (us' ++ rest) = .ok (f, rest) :=
    h' us' rest hright (hrest.tighter Op.continues_comparison)
  show comparison (operand d) (us ++ ⟨.op (.compare c), p⟩ :: us' ++ rest)
    = .ok (Expr.compare c e f, rest)
  rw [List.append_assoc, List.cons_append, comparison, hfirst]
  show (operand d (us' ++ rest) >>= fun r => pure (Expr.compare c e r.1, r.2))
    = .ok (Expr.compare c e f, rest)
  rw [hsecond]
  rfl

/-! ### Chains -/

/-- A comparison begins a conjunction. -/
theorem Reads.oneComparison (h : Reads d .comparison ws e) : Reads d .conjunction ws e := by
  intro us rest hus hrest
  have hread : comparison (operand d) (us ++ rest) = .ok (e, rest) := h us rest hus hrest
  show conjunction (operand d) (us ++ rest) = _
  rw [conjunction, hread]
  rfl

/-- A chain is read within the allowance that its terms are read in, since its loop has left a term
    before it comes to the next one. -/
theorem Reads.and (h : Reads d .conjunction ws e) (h' : Reads d .comparison vs f) :
    Reads d .conjunction (ws ++ .op .and :: vs) (.and e f) := by
  intro us rest hus hrest
  obtain ⟨us, p, us', rfl, hleft, hright⟩ := words_eq_append hus
  rw [List.append_assoc, List.cons_append]
  refine (h us _ hleft (halts_of_op rfl)).trans ?_
  show chain .and .and (comparison (operand d)) ((us' ++ rest).length + 1) e
      (⟨.op .and, p⟩ :: (us' ++ rest))
    = chain .and .and (comparison (operand d)) rest.length (.and e f) rest
  exact chain_resume (comparison_sound (operand_sound d)) p e (h' us' rest hright hrest)

/-- A conjunction is read to its end where no `&&` follows. -/
theorem Reads.conjunction_eq (h : Reads d .conjunction ws e) {us rest : List Located}
    (hus : words us = ws) (hrest : Halts .conjunction rest) :
    conjunction (operand d) (us ++ rest) = .ok (e, rest) :=
  (h us rest hus (hrest.tighter Op.continues_conjunction)).trans
    (chain_halt (l := .conjunction) rfl hrest _ e)

/-- A conjunction begins a disjunction. -/
theorem Reads.oneConjunction (h : Reads d .conjunction ws e) : Reads d .disjunction ws e := by
  intro us rest hus hrest
  show disjunction (operand d) (us ++ rest) = _
  rw [disjunction, h.conjunction_eq hus hrest]
  rfl

/-- A disjunction goes on as a conjunction does. -/
theorem Reads.or (h : Reads d .disjunction ws e) (h' : Reads d .conjunction vs f) :
    Reads d .disjunction (ws ++ .op .or :: vs) (.or e f) := by
  intro us rest hus hrest
  obtain ⟨us, p, us', rfl, hleft, hright⟩ := words_eq_append hus
  rw [List.append_assoc, List.cons_append]
  refine (h us _ hleft (halts_of_op rfl)).trans ?_
  show chain .or .or (conjunction (operand d)) ((us' ++ rest).length + 1) e
      (⟨.op .or, p⟩ :: (us' ++ rest))
    = chain .or .or (conjunction (operand d)) rest.length (.or e f) rest
  exact chain_resume (conjunction_sound (operand_sound d)) p e (h'.conjunction_eq hright hrest)

/-- **Completeness.**  A phrase of the grammar is read as its expression, whatever follows, if what
    follows does not continue its terms.  Five levels of allowance for each token are enough. -/
theorem Phrase.reads {l : Level} (h : Phrase l ws e) :
    ∀ {d : Nat}, 5 * ws.length ≤ d → Reads d l ws e := by
  induction h with
  | constant hc =>
      intro d hd
      obtain ⟨d, rfl⟩ : ∃ k, d = k + 1 := ⟨d - 1, by simp at hd; omega⟩
      exact hc.reads d
  | path r hs =>
      intro d hd
      obtain ⟨d, rfl⟩ : ∃ k, d = k + 1 := ⟨d - 1, by simp at hd; omega⟩
      exact hs.reads r d
  | not _ ih =>
      intro d hd
      simp only [List.length_cons] at hd
      obtain ⟨d, rfl⟩ : ∃ k, d = k + 1 := ⟨d - 1, by omega⟩
      exact (ih (by omega)).prefixed fun _ _ => rfl
  | negate _ ih =>
      intro d hd
      simp only [List.length_cons] at hd
      obtain ⟨d, rfl⟩ : ∃ k, d = k + 1 := ⟨d - 1, by omega⟩
      exact (ih (by omega)).prefixed fun _ _ => rfl
  | group _ ih =>
      intro d hd
      simp only [List.length_cons, List.length_append, List.length_nil] at hd
      obtain ⟨d, rfl⟩ : ∃ k, d = k + 5 := ⟨d - 5, by omega⟩
      exact (ih (by omega)).group
  | oneOperand _ ih => exact fun hd => (ih hd).oneOperand
  | compare c _ _ ihe ihf =>
      intro d hd
      simp only [List.length_append, List.length_cons] at hd
      exact (ihe (by omega)).compare c (ihf (by omega))
  | oneComparison _ ih => exact fun hd => (ih hd).oneComparison
  | and _ _ ihe ihf =>
      intro d hd
      simp only [List.length_append, List.length_cons] at hd
      exact (ihe (by omega)).and (ihf (by omega))
  | oneConjunction _ ih => exact fun hd => (ih hd).oneConjunction
  | or _ _ ihe ihf =>
      intro d hd
      simp only [List.length_append, List.length_cons] at hd
      exact (ihe (by omega)).or (ihf (by omega))

end

/-! ## The bound on nesting only cuts readings short -/

theorem comparison_cut {p q : Parser Expr} (h : ∀ ts, CutAt Stop.tooDeep (p ts) (q ts))
    (ts : List Located) : CutAt Stop.tooDeep (comparison p ts) (comparison q ts) := by
  refine (h ts).bind fun r => ?_
  obtain ⟨left, rest⟩ := r
  dsimp only
  split
  · exact (h _).bind fun _ => Or.inr rfl
  · exact Or.inr rfl

theorem chain_cut {separator : Op} {join : Expr → Expr → Expr} {p q : Parser Expr}
    (h : ∀ ts, CutAt Stop.tooDeep (p ts) (q ts)) :
    ∀ (n : Nat) (left : Expr) (ts : List Located),
      CutAt Stop.tooDeep (chain separator join p n left ts) (chain separator join q n left ts) := by
  intro n
  induction n with
  | zero => intro left ts; exact Or.inr rfl
  | succ n ih =>
      intro left ts
      by_cases hsep : ∃ r us, ts = ⟨.op separator, r⟩ :: us
      · obtain ⟨r, ts, rfl⟩ := hsep
        rw [chain_step, chain_step]
        exact (h ts).bind fun _ => ih _ _
      · rw [chain_over hsep, chain_over hsep]
        exact Or.inr rfl

theorem conjunction_cut {p q : Parser Expr} (h : ∀ ts, CutAt Stop.tooDeep (p ts) (q ts))
    (ts : List Located) : CutAt Stop.tooDeep (conjunction p ts) (conjunction q ts) :=
  (comparison_cut h ts).bind fun _ => chain_cut (comparison_cut h) _ _ _

theorem disjunction_cut {p q : Parser Expr} (h : ∀ ts, CutAt Stop.tooDeep (p ts) (q ts))
    (ts : List Located) : CutAt Stop.tooDeep (disjunction p ts) (disjunction q ts) :=
  (conjunction_cut h ts).bind fun _ => chain_cut (conjunction_cut h) _ _ _

/-- A smaller allowance reads the same operand, or runs out. -/
theorem operand_cut {d k : Nat} (hdk : d ≤ k) (ts : List Located) :
    CutAt Stop.tooDeep (operand d ts) (operand k ts) := by
  induction d using Nat.strongRecOn generalizing k ts with
  | ind d ih =>
      cases d with
      | zero => exact Or.inl rfl
      | succ d =>
          obtain ⟨k, rfl⟩ : ∃ j, k = j + 1 := ⟨k - 1, by omega⟩
          unfold operand
          split
          · exact (ih d (Nat.lt_succ_self d) (by omega) _).map _
          · exact (ih d (Nat.lt_succ_self d) (by omega) _).map _
          · split
            · next d =>
                obtain ⟨k, rfl⟩ : ∃ j, k = j + 4 := ⟨k - 4, by omega⟩
                exact (disjunction_cut (ih d (by omega) (by omega)) _).bind fun _ => Or.inr rfl
            · exact Or.inl rfl
          · exact Or.inr rfl

/-- A smaller allowance gives the same answer to a token list, or runs out. -/
theorem parseWithin_cut {d k : Nat} (hdk : d ≤ k) (ts : List Located) :
    CutAt Stop.tooDeep (parseWithin d ts) (parseWithin k ts) := by
  cases ts with
  | nil => exact Or.inr rfl
  | cons t ts => exact (disjunction_cut (operand_cut hdk) _).bind fun _ => Or.inr rfl

/-! ## Parsing whole guards -/

/-- A parsed list was read to its end. -/
theorem parseWithin_eq_ok {d : Nat} {ts : List Located} {e : Expr} :
    parseWithin d ts = .ok e ↔ ts ≠ [] ∧ disjunction (operand d) ts = .ok (e, []) := by
  cases ts with
  | nil =>
      constructor
      · intro h
        exact nomatch h
      · rintro ⟨h, -⟩
        exact absurd rfl h
  | cons t ts =>
      constructor
      · intro h
        obtain ⟨⟨f, rest⟩, h₁, h₂⟩ := bind_eq_ok.mp h
        cases rest with
        | nil =>
            cases h₂
            exact ⟨List.cons_ne_nil t ts, h₁⟩
        | cons u rest => exact nomatch h₂
      · rintro ⟨-, h⟩
        show (disjunction (operand d) (t :: ts) >>= _) = _
        rw [h]
        rfl

/-- What is parsed is a sentence. -/
theorem parseWithin_sound {d : Nat} {ts : List Located} {e : Expr}
    (h : parseWithin d ts = .ok e) : Sentence (words ts) e := by
  obtain ⟨-, h₁⟩ := parseWithin_eq_ok.mp h
  obtain ⟨us, heq, hus⟩ := disjunction_sound (operand_sound d) ts e [] h₁
  rw [List.append_nil] at heq
  rw [heq]
  exact hus

/-- No phrase is empty. -/
theorem Phrase.ne_nil {l : Level} {ts : List Token} {e : Expr} (h : Phrase l ts e) : ts ≠ [] := by
  induction h with
  | oneOperand _ ih => exact ih
  | oneComparison _ ih => exact ih
  | oneConjunction _ ih => exact ih
  | _ => simp

/-- A sentence is parsed, if the allowance has five levels for each of its tokens. -/
theorem parseWithin_complete {d : Nat} {ts : List Located} {e : Expr}
    (h : Sentence (words ts) e) (hd : 5 * ts.length ≤ d) : parseWithin d ts = .ok e := by
  have hne : ts ≠ [] := by
    rintro rfl
    exact Phrase.ne_nil h rfl
  have hlen : 5 * (words ts).length ≤ d := by rw [words, List.length_map]; exact hd
  have hread : disjunction (operand d) (ts ++ []) = .ok (e, []) :=
    Phrase.reads h hlen ts [] rfl trivial
  rw [List.append_nil] at hread
  exact parseWithin_eq_ok.mpr ⟨hne, hread⟩

/-- Within any allowance, a sentence is parsed or found too deep. -/
theorem parseWithin_of_sentence (d : Nat) {ts : List Located} {e : Expr}
    (h : Sentence (words ts) e) : CutAt Stop.tooDeep (parseWithin d ts) (.ok e) := by
  have hcut := parseWithin_cut (Nat.le_add_right d (5 * ts.length)) ts
  rw [parseWithin_complete h (Nat.le_add_left _ _)] at hcut
  exact hcut

/-- The grammar gives a token list one expression at most. -/
theorem Sentence.unique {ts : List Token} {e f : Expr} (he : Sentence ts e) (hf : Sentence ts f) :
    e = f := by
  have hwords : words (ts.map fun t => ⟨t, 0⟩) = ts := by
    rw [words, List.map_map]
    exact List.map_id ts
  rw [← hwords] at he hf
  -- the parser is a function, and it returns both
  have h := parseWithin_complete he (Nat.le_refl _)
  rw [parseWithin_complete hf (Nat.le_refl _)] at h
  exact (Except.ok.inj h).symm

/-- A parser that does not run out of allowance on lists of a length. -/
def Ample (n : Nat) (p : Parser Expr) : Prop :=
  ∀ ts : List Located, ts.length ≤ n → p ts ≠ .error .tooDeep

theorem primary_ample (n : Nat) : Ample n primary := by
  intro ts _ h
  cases ts with
  | nil => exact nomatch h
  | cons t ts =>
      obtain ⟨token, p⟩ := t
      cases token with
      | name s =>
          simp only [primary] at h
          split at h
          · exact nomatch h
          · split at h
            · exact absurd (map_eq_error.mp h) (segments_ne_tooDeep ts)
            · exact nomatch h
      | _ => exact nomatch h

theorem comparison_ample {n : Nat} {p : Parser Expr} (hp : Ample n p)
    (hs : SoundFor .operand p) : Ample n (comparison p) := by
  intro ts hn h
  rcases bind_eq_error.mp h with h₁ | ⟨⟨left, rest⟩, h₁, h₂⟩
  · exact hp ts hn h₁
  · obtain ⟨us, rfl, -⟩ := hs ts left rest h₁
    dsimp only at h₂
    split at h₂
    · next c q rest =>
        rcases bind_eq_error.mp h₂ with h₃ | ⟨r, -, h₃⟩
        · simp only [List.length_append, List.length_cons] at hn
          exact hp rest (by omega) h₃
        · exact nomatch h₃
    · exact nomatch h₂

theorem chain_ample {separator : Op} {join : Expr → Expr → Expr} {l : Level} {n : Nat}
    {p : Parser Expr} (hp : Ample n p) (hs : SoundFor l p) :
    ∀ (k : Nat) (left : Expr), Ample n (chain separator join p k left) := by
  intro k
  induction k with
  | zero => intro left ts _ h; exact nomatch h
  | succ k ih =>
      intro left ts hn h
      by_cases hsep : ∃ q us, ts = ⟨.op separator, q⟩ :: us
      · obtain ⟨q, ts, rfl⟩ := hsep
        simp only [List.length_cons] at hn
        rw [chain_step] at h
        rcases bind_eq_error.mp h with h₁ | ⟨⟨right, rest⟩, h₁, h₂⟩
        · exact hp ts (by omega) h₁
        · obtain ⟨us, rfl, -⟩ := hs ts right rest h₁
          simp only [List.length_append] at hn
          exact ih _ rest (by omega) h₂
      · rw [chain_over hsep] at h
        exact nomatch h

theorem conjunction_ample {n : Nat} {p : Parser Expr} (hp : Ample n p)
    (hs : SoundFor .operand p) : Ample n (conjunction p) := by
  intro ts hn h
  rcases bind_eq_error.mp h with h₁ | ⟨⟨left, rest⟩, h₁, h₂⟩
  · exact comparison_ample hp hs ts hn h₁
  · obtain ⟨us, rfl, -⟩ := comparison_sound hs ts left rest h₁
    simp only [List.length_append] at hn
    exact chain_ample (comparison_ample hp hs) (comparison_sound hs) _ _ rest (by omega) h₂

theorem disjunction_ample {n : Nat} {p : Parser Expr} (hp : Ample n p)
    (hs : SoundFor .operand p) : Ample n (disjunction p) := by
  intro ts hn h
  rcases bind_eq_error.mp h with h₁ | ⟨⟨left, rest⟩, h₁, h₂⟩
  · exact conjunction_ample hp hs ts hn h₁
  · obtain ⟨us, rfl, -⟩ := conjunction_sound hs ts left rest h₁
    simp only [List.length_append] at hn
    exact chain_ample (conjunction_ample hp hs) (conjunction_sound hs) _ _ rest (by omega) h₂

/-- An allowance of more than five levels for each token is never used up. -/
theorem operand_ample (n : Nat) : ∀ d : Nat, 5 * n < d → Ample n (operand d) := by
  induction n using Nat.strongRecOn with
  | ind n ih =>
      intro d hd ts hn h
      obtain ⟨d, rfl⟩ : ∃ k, d = k + 1 := ⟨d - 1, by omega⟩
      unfold operand at h
      split at h
      · next q ts =>
          simp only [List.length_cons] at hn
          exact ih (n - 1) (by omega) d (by omega) ts (by omega) (map_eq_error.mp h)
      · next q ts =>
          simp only [List.length_cons] at hn
          exact ih (n - 1) (by omega) d (by omega) ts (by omega) (map_eq_error.mp h)
      · next q ts =>
          simp only [List.length_cons] at hn
          split at h
          · next k =>
              rcases bind_eq_error.mp h with h₁ | ⟨⟨e, rest⟩, -, h₂⟩
              · exact disjunction_ample (ih (n - 1) (by omega) k (by omega)) (operand_sound k)
                  ts (by omega) h₁
              · exact closing_ne_tooDeep e rest h₂
          · next hk => exact hk (d - 4) (by omega)
      · exact primary_ample n ts hn h

/-- A list with five levels of allowance for each of its tokens, and one more, is not too deep. -/
theorem parseWithin_ne_tooDeep {d : Nat} {ts : List Located} (hd : 5 * ts.length < d) :
    parseWithin d ts ≠ .error .tooDeep := by
  intro h
  cases ts with
  | nil => exact nomatch h
  | cons t ts =>
      rcases bind_eq_error.mp h with h₁ | ⟨⟨e, rest⟩, -, h₂⟩
      · exact disjunction_ample (operand_ample _ d hd) (operand_sound d) _ (Nat.le_refl _) h₁
      · cases rest <;> exact nomatch h₂

/-- **The parser accepts exactly the grammar.**  Whatever its allowance, unless it runs out of it, the
    parser parses a token list as an expression just when the grammar gives the list that expression.
    It cannot run out on a list with five levels of allowance for each token, and with a large enough
    allowance every sentence is parsed.  The grammar gives a list one expression at most, and a list
    that is parsed was read to its end. -/
theorem parseWithin_accepts_grammar (allowance : Nat) (ts : List Located) :
    (parseWithin allowance ts ≠ .error .tooDeep →
      ∀ e, parseWithin allowance ts = .ok e ↔ Sentence (words ts) e) ∧
    (5 * ts.length < allowance → parseWithin allowance ts ≠ .error .tooDeep) ∧
    (∀ d, 5 * ts.length < d → ∀ e, parseWithin d ts = .ok e ↔ Sentence (words ts) e) ∧
    (∀ e f, Sentence (words ts) e → Sentence (words ts) f → e = f) ∧
    (∀ e, parseWithin allowance ts = .ok e →
      disjunction (operand allowance) ts = .ok (e, [])) := by
  refine ⟨?_, fun hd => parseWithin_ne_tooDeep hd, ?_, fun e f => Sentence.unique, ?_⟩
  · intro hdeep e
    refine ⟨parseWithin_sound, fun h => ?_⟩
    rcases parseWithin_of_sentence allowance h with hcut | hok
    · exact absurd hcut hdeep
    · exact hok
  · intro d hd e
    exact ⟨parseWithin_sound, fun h => parseWithin_complete h (Nat.le_of_lt hd)⟩
  · intro e h
    exact (parseWithin_eq_ok.mp h).2

/-- In `-1 < session.true` the minus sign binds tighter than the comparison, and a keyword after a
    point is a property. -/
theorem parseWithin_accepts_keyword_property :
    let ts : List Located := [⟨.op .minus, 0⟩, ⟨.number (.integer 1), 1⟩,
      ⟨.op (.compare .below), 3⟩, ⟨.name "session", 5⟩, ⟨.op .dot, 12⟩, ⟨.name "true", 13⟩]
    let e : Expr := .compare .below (.negate (.literal (.number (.integer 1))))
      (.path .session [.key "true"])
    5 * ts.length < 970 ∧ parseWithin 970 ts = .ok e ∧ Sentence (words ts) e := by
  intro ts e
  have hlen : 5 * ts.length < 970 := by decide
  have hdeep : parseWithin 970 ts ≠ .error .tooDeep :=
    (parseWithin_accepts_grammar 970 ts).2.1 hlen
  have hsentence : Sentence (words ts) e :=
    .oneConjunction (.oneComparison (.compare .below
      (.negate (.constant (.number _))) (.path .session (.property "true" .done))))
  exact ⟨hlen, ((parseWithin_accepts_grammar 970 ts).1 hdeep e).mpr hsentence, hsentence⟩

end LessonVariants
