import LessonVariants.Proofs.Guard.Grammar

/-! # What a parser sees

    A parser sees the tokens that it takes and one more, the first of those that it leaves.  Behind
    that token the list may be any other one, and the parser ends in the same way, in front of the
    same token (`LooksAhead`).  This is so of complaints as it is of results.

    It holds of a parser that takes one token, and it is kept when parsers are put one after the
    other, so it holds of the parsers of all levels (`disjunction_looksAhead`). -/

namespace LessonVariants

variable {α β : Type}

/-- The end of a parser, with a result or with a complaint, and what it leaves. -/
def ended : Except Complaint α → List Located → Except Stop (α × List Located)
  | .ok a,    rest => .ok (a, rest)
  | .error c, rest => .error (.complaint c rest)

/-- A parser that sees no more than the first of the tokens that it leaves. -/
structure LooksAhead (p : Parser α) : Prop where
  suffix : ∀ {ts x rest}, p ts = ended x rest → rest <:+ ts
  same   : ∀ {us x rest rest'}, rest.head? = rest'.head? →
    p (us ++ rest) = ended x rest → p (us ++ rest') = ended x rest'

/-! ## One parser after the other -/

/-- Two parsers, the second one on what the first one leaves. -/
def andThen (p : Parser α) (f : α → Parser β) : Parser β := fun ts =>
  p ts >>= fun r => f r.1 r.2

/-- A parser whose result is carried on. -/
def mapped (g : α → β) (p : Parser α) : Parser β := fun ts =>
  (p ts).map fun r => (g r.1, r.2)

theorem ended_inj {x y : Except Complaint α} {rest rest' : List Located}
    (h : ended x rest = ended y rest') : x = y ∧ rest = rest' := by
  cases x <;> cases y <;> cases h <;> exact ⟨rfl, rfl⟩

/-- Two parsers end where the first one complains or where the second one ends. -/
theorem andThen_eq_ended {p : Parser α} {f : α → Parser β} {ts rest : List Located}
    {x : Except Complaint β} :
    andThen p f ts = ended x rest ↔
      (∃ c, p ts = ended (.error c) rest ∧ x = .error c) ∨
        ∃ a us, p ts = ended (.ok a) us ∧ f a us = ended x rest := by
  unfold andThen
  cases p ts with
  | ok r =>
      constructor
      · intro h
        exact Or.inr ⟨r.1, r.2, rfl, h⟩
      · rintro (⟨c, h, -⟩ | ⟨a, ts, h, hf⟩)
        · exact nomatch h
        · cases h
          exact hf
  | error stop =>
      constructor
      · intro h
        cases x with
        | ok b => exact nomatch h
        | error c =>
            cases h
            exact Or.inl ⟨c, rfl, rfl⟩
      · rintro (⟨c, h, rfl⟩ | ⟨a, ts, h, -⟩)
        · cases h
          rfl
        · exact nomatch h

/-- What is done to a result changes neither a complaint nor what is left. -/
theorem mapped_eq_ended {p : Parser α} {g : α → β} {ts rest : List Located}
    {x : Except Complaint β} :
    mapped g p ts = ended x rest ↔ ∃ y, p ts = ended y rest ∧ x = y.map g := by
  unfold mapped
  cases p ts with
  | ok r =>
      constructor
      · intro h
        cases x with
        | ok b =>
            cases h
            exact ⟨.ok r.1, rfl, rfl⟩
        | error c => exact nomatch h
      · rintro ⟨y, h, rfl⟩
        cases y <;> cases h
        rfl
  | error stop =>
      constructor
      · intro h
        cases x with
        | ok b => exact nomatch h
        | error c =>
            cases h
            exact ⟨.error c, rfl, rfl⟩
      · rintro ⟨y, h, rfl⟩
        cases y <;> cases h
        rfl

namespace LooksAhead

variable {p : Parser α}

theorem mapped (hp : LooksAhead p) (g : α → β) : LooksAhead (mapped g p) where
  suffix h := by
    obtain ⟨y, hy, -⟩ := mapped_eq_ended.mp h
    exact hp.suffix hy
  same hhead h := by
    obtain ⟨y, hy, hx⟩ := mapped_eq_ended.mp h
    exact mapped_eq_ended.mpr ⟨y, hp.same hhead hy, hx⟩

/-- What the second parser sees is all it needs to see, on what the first one leaves of a list. -/
theorem andThen_same (hp : LooksAhead p) {f : α → Parser β} {us rest rest' : List Located}
    {x : Except Complaint β} (hhead : rest.head? = rest'.head?)
    (hsuffix : ∀ {a ts}, f a ts = ended x rest → rest <:+ ts)
    (hf : ∀ {a vs}, vs <:+ us → f a (vs ++ rest) = ended x rest → f a (vs ++ rest') = ended x rest')
    (h : andThen p f (us ++ rest) = ended x rest) : andThen p f (us ++ rest') = ended x rest' := by
  rw [andThen_eq_ended] at h ⊢
  rcases h with ⟨c, hc, hx⟩ | ⟨a, ts, ha, hts⟩
  · exact Or.inl ⟨c, hp.same hhead hc, hx⟩
  · obtain ⟨vs, rfl⟩ := hsuffix hts
    obtain ⟨ws, hws⟩ := hp.suffix ha
    rw [← List.append_assoc] at hws
    obtain rfl := List.append_cancel_right hws
    -- the first parser is followed by the same token, whether or not the second one takes it
    have hnext : (vs ++ rest).head? = (vs ++ rest').head? := by
      rw [List.head?_append, List.head?_append, hhead]
    rw [List.append_assoc] at ha
    refine Or.inr ⟨a, vs ++ rest', ?_, hf (List.suffix_append ws vs) hts⟩
    rw [List.append_assoc]
    exact hp.same hnext ha

theorem andThen (hp : LooksAhead p) {f : α → Parser β} (hf : ∀ a, LooksAhead (f a)) :
    LooksAhead (andThen p f) where
  suffix h := by
    rcases andThen_eq_ended.mp h with ⟨c, hc, -⟩ | ⟨a, ts, ha, hts⟩
    · exact hp.suffix hc
    · exact ((hf a).suffix hts).trans (hp.suffix ha)
  same hhead h := hp.andThen_same hhead (hf _).suffix (fun _ hf' => (hf _).same hhead hf') h

/-- A parser that gives its result at once. -/
theorem pure (a : α) : LooksAhead fun ts => .ok (a, ts) where
  suffix {ts x rest} h := by
    cases x <;> cases h
    exact List.suffix_refl _
  same {us x rest rest'} _ h := by
    cases x with
    | error c => exact nomatch h
    | ok b =>
        obtain ⟨rfl, hrest⟩ := Prod.mk.inj (Except.ok.inj h)
        obtain rfl := List.append_left_eq_self.mp hrest
        rfl

/-- A parser that takes a token and goes on as another one sees what that one sees. -/
theorem cons_same {q : Parser α} {t : Located} (htake : ∀ ts, p (t :: ts) = q ts)
    {us rest rest' : List Located} {x : Except Complaint α}
    (hsuffix : ∀ {ts}, q ts = ended x rest → rest <:+ ts)
    (hq : ∀ {vs}, vs.length < us.length → q (vs ++ rest) = ended x rest →
      q (vs ++ rest') = ended x rest')
    (ht : (us ++ rest).head? = some t) (h : p (us ++ rest) = ended x rest) :
    p (us ++ rest') = ended x rest' := by
  cases us with
  | nil =>
      -- the token is taken, so it is not left
      obtain ⟨tail, rfl⟩ := List.head?_eq_some_iff.mp ht
      rw [List.nil_append, htake] at h
      have hlen := (hsuffix h).length_le
      rw [List.length_cons] at hlen
      omega
  | cons u us =>
      obtain rfl := Option.some.inj ht
      rw [List.cons_append, htake] at h ⊢
      exact hq (Nat.lt_succ_self _) h

/-- A parser that goes on as others behind certain tokens, and as a last one elsewhere. -/
theorem choice {r : Parser α} (behind : Located → Option (Parser α))
    (htake : ∀ {t q}, behind t = some q → LooksAhead q ∧ ∀ ts, p (t :: ts) = q ts)
    (helse : ∀ ts, (∀ t, ts.head? = some t → behind t = none) → p ts = r ts) (hr : LooksAhead r) :
    LooksAhead p := by
  have hcases : ∀ ts : List Located, (∃ t q, ts.head? = some t ∧ behind t = some q) ∨
      ∀ t, ts.head? = some t → behind t = none := by
    refine fun ts => Classical.or_iff_not_imp_left.mpr fun h t ht => ?_
    cases hq : behind t with
    | none => rfl
    | some q => exact absurd ⟨t, q, ht, hq⟩ h
  constructor
  · intro ts x rest h
    rcases hcases ts with ⟨t, q, ht, hq⟩ | hnone
    · obtain ⟨tail, rfl⟩ := List.head?_eq_some_iff.mp ht
      obtain ⟨hlook, hp⟩ := htake hq
      rw [hp] at h
      exact (hlook.suffix h).trans (List.suffix_cons t tail)
    · rw [helse ts hnone] at h
      exact hr.suffix h
  · intro us x rest rest' hhead h
    rcases hcases (us ++ rest) with ⟨t, q, ht, hq⟩ | hnone
    · obtain ⟨hlook, hp⟩ := htake hq
      exact cons_same hp hlook.suffix (fun _ => hlook.same hhead) ht h
    · have hnone' : ∀ t, (us ++ rest').head? = some t → behind t = none := by
        rw [List.head?_append, ← hhead, ← List.head?_append]
        exact hnone
      rw [helse _ hnone] at h
      rw [helse _ hnone']
      exact hr.same hhead h

end LooksAhead

/-- Takes a token that is accepted, and complains about any other one and about the end. -/
def takeToken (accept : Option Token → Except Complaint α) : Parser α := fun ts =>
  match accept (ts.head?.map Located.token) with
  | .ok a    => .ok (a, ts.tail)
  | .error c => .error (.complaint c ts)

theorem takeToken_looksAhead {accept : Option Token → Except Complaint α} {c : Complaint}
    (hend : accept none = .error c) : LooksAhead (takeToken accept) where
  suffix {ts x rest} h := by
    unfold takeToken at h
    split at h <;> cases x <;> cases h
    · exact List.tail_suffix ts
    · exact List.suffix_refl ts
  same {us x rest rest'} hhead h := by
    have hsame : (us ++ rest').head? = (us ++ rest).head? := by
      rw [List.head?_append, List.head?_append, hhead]
    unfold takeToken at h ⊢
    rw [hsame]
    cases haccept : accept ((us ++ rest).head?.map Located.token) with
    | error c' =>
        rw [haccept] at h
        obtain ⟨rfl, hrest⟩ := ended_inj (x := .error c') h
        obtain rfl := List.append_left_eq_self.mp hrest
        rfl
    | ok a =>
        rw [haccept] at h
        obtain ⟨rfl, hrest⟩ := ended_inj (x := .ok a) h
        cases us with
        | cons u us =>
            obtain rfl := List.append_left_eq_self.mp hrest
            rfl
        | nil =>
            -- there is a token to be taken, since the end is not accepted
            cases rest with
            | nil => exact nomatch hend.symm.trans haccept
            | cons t ts => exact absurd (congrArg List.length hrest) (by simp)

/-! ## Paths -/

/-- The name of a property. -/
def propertyName : Option Token → Except Complaint Segment
  | some (.name s) => .ok (.key s)
  | _              => .error .expectedProperty

/-- The key or the index between brackets. -/
def bracketed : Option Token → Except Complaint Segment
  | some (.string s) => .ok (.key s)
  | some (.number n) => .ok (.index n)
  | _                => .error .expectedIndex

/-- A token that must stand where it is expected. -/
def expecting (o : Op) (a : α) (t : Option Token) : Except Complaint α :=
  if t = some (.op o) then .ok a else .error (.expected o)

/-- One step of a path, behind the operator that it begins with. -/
def pathStep : Op → Option (Parser Segment)
  | .dot         => some (takeToken propertyName)
  | .openBracket =>
      some (andThen (takeToken bracketed) fun s => takeToken (expecting .closeBracket s))
  | _            => none

theorem pathStep_looksAhead {o : Op} {q : Parser Segment} (h : pathStep o = some q) :
    LooksAhead q := by
  unfold pathStep at h
  split at h
  · cases h
    exact takeToken_looksAhead rfl
  · cases h
    exact (takeToken_looksAhead rfl).andThen fun s => takeToken_looksAhead rfl
  · exact nomatch h

/-- A path takes one step after the other. -/
theorem segments_step {o : Op} {q : Parser Segment} (h : pathStep o = some q) (p : Nat)
    (ts : List Located) : segments (⟨.op o, p⟩ :: ts)
      = andThen q (fun s => mapped (s :: ·) segments) ts := by
  unfold pathStep at h
  split at h
  · cases h
    cases ts with
    | nil => rfl
    | cons t ts =>
        obtain ⟨token, p'⟩ := t
        cases token <;> rfl
  · cases h
    cases ts with
    | nil => rfl
    | cons t ts =>
        obtain ⟨token, p'⟩ := t
        cases token with
        | op _ => rfl
        | name _ => rfl
        | _ =>
            -- a key or an index is followed by the closing bracket or by something else
            cases ts with
            | nil => rfl
            | cons t ts =>
                obtain ⟨token, p''⟩ := t
                cases token with
                | op o => cases o <;> rfl
                | _ => rfl
  · exact nomatch h

/-- A path is over where no step begins. -/
theorem segments_over {ts : List Located}
    (h : ∀ o p, ts.head? = some ⟨.op o, p⟩ → pathStep o = none) :
    segments ts = ended (.ok []) ts := by
  cases ts with
  | nil => rfl
  | cons t ts =>
      obtain ⟨token, p⟩ := t
      cases token with
      | op o =>
          have hover := h o p rfl
          cases o <;> first | rfl | exact nomatch hover
      | _ => rfl

/-- A step of a path begins a list, or none does. -/
theorem pathStep_cases (ts : List Located) :
    (∃ o p tail q, ts = ⟨.op o, p⟩ :: tail ∧ pathStep o = some q) ∨
      ∀ o p, ts.head? = some ⟨.op o, p⟩ → pathStep o = none := by
  refine Classical.or_iff_not_imp_left.mpr fun h o p ht => ?_
  obtain ⟨tail, rfl⟩ := List.head?_eq_some_iff.mp ht
  cases hq : pathStep o with
  | none => rfl
  | some q => exact absurd ⟨o, p, tail, q, rfl, hq⟩ h

theorem segments_suffix (n : Nat) : ∀ {ts rest : List Located}
    {x : Except Complaint (List Segment)}, ts.length ≤ n → segments ts = ended x rest →
      rest <:+ ts := by
  -- each step takes a token, so the induction is on the length
  induction n with
  | zero =>
      intro ts rest x hn h
      obtain rfl := List.length_eq_zero_iff.mp (Nat.le_zero.mp hn)
      obtain ⟨-, rfl⟩ := ended_inj (x := .ok []) h
      exact List.suffix_refl _
  | succ n ih =>
      intro ts rest x hn h
      rcases pathStep_cases ts with ⟨o, p, tail, q, rfl, hq⟩ | hover
      · rw [List.length_cons] at hn
        have hlook := pathStep_looksAhead hq
        rw [segments_step hq] at h
        refine List.IsSuffix.trans ?_ (List.suffix_cons _ tail)
        rcases andThen_eq_ended.mp h with ⟨c, hc, -⟩ | ⟨s, us, hs, hus⟩
        · exact hlook.suffix hc
        · obtain ⟨y, hy, -⟩ := mapped_eq_ended.mp hus
          have htail := hlook.suffix hs
          have hlen := htail.length_le
          exact (ih (by omega) hy).trans htail
      · rw [segments_over hover] at h
        obtain ⟨-, rfl⟩ := ended_inj h
        exact List.suffix_refl _

theorem segments_same (n : Nat) : ∀ {us rest rest' : List Located}
    {x : Except Complaint (List Segment)}, us.length = n → rest.head? = rest'.head? →
      segments (us ++ rest) = ended x rest → segments (us ++ rest') = ended x rest' := by
  induction n using Nat.strongRecOn with
  | ind n ih =>
      intro us rest rest' x hn hhead h
      rcases pathStep_cases (us ++ rest) with ⟨o, p, tail, q, htail, hq⟩ | hover
      · have hlook := pathStep_looksAhead hq
        have hsuffix : ∀ {s ts} {y : Except Complaint (List Segment)},
            mapped (s :: ·) segments ts = ended y rest → rest <:+ ts := fun hs => by
          obtain ⟨_, hy, -⟩ := mapped_eq_ended.mp hs
          exact segments_suffix _ (Nat.le_refl _) hy
        refine LooksAhead.cons_same (segments_step hq p) (fun hts => ?_) (fun hvs hts => ?_)
          (by rw [htail, List.head?_cons]) h
        · rcases andThen_eq_ended.mp hts with ⟨c, hc, -⟩ | ⟨s, us, hs, hus⟩
          · exact hlook.suffix hc
          · exact (hsuffix hus).trans (hlook.suffix hs)
        · refine hlook.andThen_same hhead hsuffix (fun hws hs => ?_) hts
          obtain ⟨y, hy, hx⟩ := mapped_eq_ended.mp hs
          have hlen := hws.length_le
          exact mapped_eq_ended.mpr ⟨y, ih _ (by omega) rfl hhead hy, hx⟩
      · rw [segments_over hover] at h
        obtain ⟨rfl, hrest⟩ := ended_inj h
        obtain rfl := List.append_left_eq_self.mp hrest
        rw [List.nil_append] at hover ⊢
        rw [hhead] at hover
        exact segments_over hover

theorem segments_looksAhead : LooksAhead segments where
  suffix h := segments_suffix _ (Nat.le_refl _) h
  same hhead h := segments_same _ rfl hhead h

/-! ## Operands -/

/-- The constant or the root at the head of an operand. -/
def operandHead : Option Token → Except Complaint (Literal ⊕ Root)
  | none             => .error .unexpectedEnd
  | some (.number n) => .ok (.inl (.number n))
  | some (.string s) => .ok (.inl (.text s))
  | some (.op o)     => .error (.unexpectedToken (.op o))
  | some (.name s)   =>
      match keyword? s with
      | some l => .ok (.inl l)
      | none   =>
          match Root.ofName? s with
          | some r => .ok (.inr r)
          | none   => .error (.unknownName s)

/-- A constant stands alone, and steps may follow a root. -/
def operandTail : Literal ⊕ Root → Parser Expr
  | .inl l => fun ts => .ok (.literal l, ts)
  | .inr r => mapped (.path r ·) segments

theorem primary_eq : primary = andThen (takeToken operandHead) operandTail := by
  funext ts
  cases ts with
  | nil => rfl
  | cons t ts =>
      obtain ⟨token, p⟩ := t
      cases token with
      | name s =>
          unfold primary andThen takeToken operandHead
          dsimp only [List.head?_cons, Option.map_some]
          cases keyword? s with
          | some l => rfl
          | none =>
              cases Root.ofName? s with
              | some r => rfl
              | none => rfl
      | _ => rfl

theorem primary_looksAhead : LooksAhead primary := by
  rw [primary_eq]
  refine (takeToken_looksAhead rfl).andThen fun head => ?_
  cases head with
  | inl l => exact .pure _
  | inr r => exact segments_looksAhead.mapped _

/-! ## Chains -/

/-- What a chain goes on with behind a token: another term and a shorter chain, if the token is its
    separator. -/
def behindTerm (separator : Op) (join : Expr → Expr → Expr) (p : Parser Expr) (n : Nat)
    (left : Expr) (t : Located) : Option (Parser Expr) :=
  if t.token = .op separator then
    some (andThen p fun right => chain separator join p n (join left right))
  else none

theorem chain_looksAhead {separator : Op} {join : Expr → Expr → Expr} {p : Parser Expr}
    (hp : LooksAhead p) (n : Nat) :
    ∀ left : Expr, LooksAhead (chain separator join p n left) := by
  induction n with
  | zero => exact fun left => .pure left
  | succ n ih =>
      intro left
      refine .choice (behindTerm separator join p n left) (fun {t q} hq => ?_)
        (fun ts hnone => ?_) (.pure left)
      · unfold behindTerm at hq
        split at hq
        · next ht =>
            obtain ⟨token, k⟩ := t
            cases ht
            cases hq
            exact ⟨hp.andThen fun right => ih _, fun ts => chain_step n k left ts⟩
        · exact nomatch hq
      · -- no separator is at the head of the list
        refine chain_over ?_ (n + 1) left
        rintro ⟨k, us, rfl⟩
        exact nomatch (if_pos rfl).symm.trans (hnone _ rfl)

/-- A term and the chain of those that follow it. -/
def chained (separator : Op) (join : Expr → Expr → Expr) (p : Parser Expr) : Parser Expr :=
  andThen p fun left ts => chain separator join p ts.length left ts

/-- The number that bounds a chain is large enough if it is not below the number of tokens. -/
theorem chained_eq {separator : Op} {join : Expr → Expr → Expr} {l : Level} {p : Parser Expr}
    (hs : SoundFor l p) {n : Nat} {ts : List Located} (hn : ts.length ≤ n) :
    chained separator join p ts = andThen p (chain separator join p n) ts := by
  unfold chained andThen
  cases hp : p ts with
  | error stop => rfl
  | ok r =>
      obtain ⟨us, hus, -⟩ := hs ts r.1 r.2 hp
      have hlen : r.2.length ≤ n := by
        rw [hus, List.length_append] at hn
        omega
      exact chain_enough hs _ n r.1 r.2 (Nat.le_refl _) hlen

theorem chained_looksAhead {separator : Op} {join : Expr → Expr → Expr} {l : Level}
    {p : Parser Expr} (hs : SoundFor l p) (hp : LooksAhead p) :
    LooksAhead (chained separator join p) := by
  have hbounded : ∀ n, LooksAhead (andThen p (chain separator join p n)) :=
    fun n => hp.andThen (chain_looksAhead hp n)
  constructor
  · intro ts x rest h
    rw [chained_eq hs (Nat.le_refl _)] at h
    exact (hbounded _).suffix h
  · intro us x rest rest' hhead h
    -- one bound is large enough for both lists
    rw [chained_eq hs (Nat.le_max_left _ (us ++ rest').length)] at h
    rw [chained_eq hs (Nat.le_max_right (us ++ rest).length _)]
    exact (hbounded _).same hhead h

/-! ## The levels -/

/-- What goes on behind the first operand of a comparison: a second one, if an operator follows. -/
def comparisonTail (p : Parser Expr) (left : Expr) : Parser Expr
  | ⟨.op (.compare c), _⟩ :: ts => mapped (.compare c left ·) p ts
  | ts                          => .ok (left, ts)

theorem comparison_eq (p : Parser Expr) : comparison p = andThen p (comparisonTail p) := by
  funext ts
  refine congrArg (p ts >>= ·) (funext fun r => ?_)
  obtain ⟨left, rest⟩ := r
  cases rest with
  | nil => rfl
  | cons t rest =>
      obtain ⟨token, q⟩ := t
      cases token with
      | op o =>
          cases o with
          | compare c =>
              show (p rest >>= _) = mapped (Expr.compare c left ·) p rest
              unfold mapped
              cases p rest <;> rfl
          | _ => rfl
      | _ => rfl

/-- What a comparison goes on with behind a token. -/
def behindOperand (p : Parser Expr) (left : Expr) : Located → Option (Parser Expr)
  | ⟨.op (.compare c), _⟩ => some (mapped (.compare c left ·) p)
  | _                     => none

section

variable {p : Parser Expr} (hs : SoundFor .operand p) (hp : LooksAhead p)
include hp

theorem comparison_looksAhead : LooksAhead (comparison p) := by
  rw [comparison_eq]
  refine hp.andThen fun left => ?_
  refine .choice (behindOperand p left) (fun {t q} hq => ?_) (fun ts hnone => ?_) (.pure left)
  · unfold behindOperand at hq
    split at hq
    · cases hq
      exact ⟨hp.mapped _, fun ts => rfl⟩
    · exact nomatch hq
  · unfold comparisonTail
    split
    · exact nomatch hnone _ rfl
    · rfl

include hs

theorem conjunction_looksAhead : LooksAhead (conjunction p) :=
  chained_looksAhead (comparison_sound hs) (comparison_looksAhead hp)

theorem disjunction_looksAhead : LooksAhead (disjunction p) :=
  chained_looksAhead (conjunction_sound hs) (conjunction_looksAhead hs hp)

end

/-- A parser that gives up on nesting sees nothing. -/
theorem tooDeep_looksAhead :
    LooksAhead fun _ => (.error .tooDeep : Except Stop (α × List Located)) where
  suffix {ts x rest} h := by cases x <;> exact nomatch h
  same {us x rest rest'} _ h := by cases x <;> exact nomatch h

theorem closing_eq (e : Expr) : closing e = takeToken (expecting .closeParen e) := by
  funext ts
  cases ts with
  | nil => rfl
  | cons t ts =>
      obtain ⟨token, p⟩ := t
      cases token with
      | op o => cases o <;> rfl
      | _ => rfl

/-- A group behind its opening parenthesis. -/
def groupTail : Nat → Parser Expr
  | k + 4 => andThen (disjunction (operand k)) closing
  | _     => fun _ => .error .tooDeep

/-- What an operand goes on with behind a token. -/
def behindToken (d : Nat) : Located → Option (Parser Expr)
  | ⟨.op .not, _⟩       => some (mapped .not (operand d))
  | ⟨.op .minus, _⟩     => some (mapped .negate (operand d))
  | ⟨.op .openParen, _⟩ => some (groupTail d)
  | _                   => none

/-- **Within any allowance an operand sees no more than the first of the tokens that it leaves.** -/
theorem operand_looksAhead (d : Nat) : LooksAhead (operand d) := by
  induction d using Nat.strongRecOn with
  | ind d ih =>
      cases d with
      | zero => exact tooDeep_looksAhead
      | succ d =>
          refine .choice (behindToken d) (fun {t q} hq => ?_) (fun ts hnone => ?_)
            primary_looksAhead
          · unfold behindToken at hq
            split at hq
            · cases hq
              exact ⟨(ih d (Nat.lt_succ_self d)).mapped _, fun ts => rfl⟩
            · cases hq
              exact ⟨(ih d (Nat.lt_succ_self d)).mapped _, fun ts => rfl⟩
            · cases hq
              refine ⟨?_, fun ts => ?_⟩
              · unfold groupTail
                split
                · next k =>
                    refine .andThen (disjunction_looksAhead (operand_sound k) (ih k (by omega)))
                      fun e => ?_
                    rw [closing_eq]
                    exact takeToken_looksAhead rfl
                · exact tooDeep_looksAhead
              · rcases d with _ | _ | _ | _ | k <;> rfl
            · exact nomatch hq
          · unfold operand
            split
            · exact nomatch hnone _ rfl
            · exact nomatch hnone _ rfl
            · exact nomatch hnone _ rfl
            · rfl

end LessonVariants
