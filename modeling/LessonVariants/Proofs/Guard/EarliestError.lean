import LessonVariants.Proofs.Guard.Lookahead
import LessonVariants.Proofs.Guard.Text

/-! # Where parsing complains

    A list of words is viable if it is the beginning of a sentence (`Viable`).  Where the parser
    complains, what it has taken is viable: each parser knows how the phrase that it is reading
    could have gone on (`operand_stops`, `disjunction_stops`).  With the token that it complains
    about, the words are viable no more.  The parser sees nothing behind that token
    (`parseWithin_same`), so it would complain about it in a sentence as well, and sentences are
    parsed.

    So a complaint is at the first token with which the words are not viable, or at the end of the
    text if the words are viable but no sentence. -/

namespace LessonVariants

/-- Words with which a phrase of a level begins. -/
def Begins (l : Level) (ws : List Token) : Prop :=
  ∃ more e, Phrase l (ws ++ more) e

/-- Words with which a sentence begins. -/
def Viable (ws : List Token) : Prop :=
  ∃ more e, Sentence (ws ++ more) e

/-- A parser that has taken the beginning of a phrase wherever it complains. -/
def StopsWithin (l : Level) (p : Parser Expr) : Prop :=
  ∀ ts c rest, p ts = .error (.complaint c rest) →
    c ≠ .emptyExpression ∧ ∃ us, ts = us ++ rest ∧ Begins l (words us)

theorem words_append (us vs : List Located) : words (us ++ vs) = words us ++ words vs :=
  List.map_append

theorem words_cons (t : Located) (ts : List Located) : words (t :: ts) = t.token :: words ts :=
  rfl

/-- No words begin an operand, and so they begin any phrase. -/
theorem begins_nil : Begins .operand [] :=
  ⟨[.name "null"], .literal .null, .constant .null⟩

/-! ## What has been taken -/

/-- Where a path is complained about, its steps could have gone on. -/
theorem segments_stops {ts rest : List Located} {c : Complaint}
    (h : segments ts = .error (.complaint c rest)) :
    c ≠ .emptyExpression ∧ ∃ us, ts = us ++ rest ∧ ∃ more ss, Steps (words us ++ more) ss := by
  -- a step that is complete is kept, and the one that is complained about could be completed
  fun_induction segments ts with
  | case1 p s q ts ih =>
      obtain ⟨hc, us, rfl, more, ss, hus⟩ := ih (map_eq_error.mp h)
      exact ⟨hc, ⟨.op .dot, p⟩ :: ⟨.name s, q⟩ :: us, rfl, more, _, .property s hus⟩
  | case2 p ts _ =>
      cases h
      exact ⟨by simp, [⟨.op .dot, p⟩], rfl, [.name "id"], _, .property "id" .done⟩
  | case3 p s q r ts ih =>
      obtain ⟨hc, us, rfl, more, ss, hus⟩ := ih (map_eq_error.mp h)
      exact ⟨hc, ⟨.op .openBracket, p⟩ :: ⟨.string s, q⟩ :: ⟨.op .closeBracket, r⟩ :: us, rfl,
        more, _, .key s hus⟩
  | case4 p n q r ts ih =>
      obtain ⟨hc, us, rfl, more, ss, hus⟩ := ih (map_eq_error.mp h)
      exact ⟨hc, ⟨.op .openBracket, p⟩ :: ⟨.number n, q⟩ :: ⟨.op .closeBracket, r⟩ :: us, rfl,
        more, _, .index n hus⟩
  | case5 p s q ts _ =>
      cases h
      exact ⟨by simp, [⟨.op .openBracket, p⟩, ⟨.string s, q⟩], rfl, [.op .closeBracket], _,
        .key s .done⟩
  | case6 p n q ts _ =>
      cases h
      exact ⟨by simp, [⟨.op .openBracket, p⟩, ⟨.number n, q⟩], rfl, [.op .closeBracket], _,
        .index n .done⟩
  | case7 p ts _ _ _ _ =>
      cases h
      exact ⟨by simp, [⟨.op .openBracket, p⟩], rfl, [.string "id", .op .closeBracket], _,
        .key "id" .done⟩
  | case8 ts => cases h

theorem primary_stops : StopsWithin .operand primary := by
  intro ts c rest h
  cases ts with
  | nil =>
      cases h
      exact ⟨by simp, [], rfl, begins_nil⟩
  | cons t ts =>
      obtain ⟨token, p⟩ := t
      cases token with
      | number n => cases h
      | string s => cases h
      | op o =>
          cases h
          exact ⟨by simp, [], rfl, begins_nil⟩
      | name s =>
          simp only [primary] at h
          cases hk : keyword? s with
          | some l =>
              rw [hk] at h
              cases h
          | none =>
              rw [hk] at h
              cases hr : Root.ofName? s with
              | none =>
                  rw [hr] at h
                  cases h
                  exact ⟨by simp, [], rfl, begins_nil⟩
              | some r =>
                  rw [hr] at h
                  obtain ⟨hc, us, rfl, more, ss, hus⟩ := segments_stops (map_eq_error.mp h)
                  refine ⟨hc, ⟨.name s, p⟩ :: us, rfl, more, .path r ss, ?_⟩
                  rw [words_cons, ← Root.text_of_ofName? hr]
                  exact .path r hus

theorem comparison_stops {p : Parser Expr} (hs : SoundFor .operand p)
    (hp : StopsWithin .operand p) : StopsWithin .comparison (comparison p) := by
  intro ts c rest h
  rcases bind_eq_error.mp h with hleft | ⟨⟨left, rest₁⟩, hleft, htail⟩
  · obtain ⟨hc, us, rfl, more, e, hus⟩ := hp ts c rest hleft
    exact ⟨hc, us, rfl, more, e, .oneOperand hus⟩
  · obtain ⟨us, rfl, hus⟩ := hs ts left rest₁ hleft
    dsimp only at htail
    split at htail
    · next o q rest₂ =>
        rcases bind_eq_error.mp htail with hright | ⟨_, -, hpure⟩
        · obtain ⟨hc, vs, rfl, more, f, hvs⟩ := hp rest₂ c rest hright
          refine ⟨hc, us ++ ⟨.op (.compare o), q⟩ :: vs, by simp, more, .compare o left f, ?_⟩
          rw [words_append, words_cons, List.append_assoc]
          exact .compare o hus hvs
        · exact nomatch hpure
    · exact nomatch htail

/-- A chain extends the phrase on its left also where one of its terms is complained about. -/
theorem chain_stops {l m : Level} {separator : Op} {join : Expr → Expr → Expr} {p : Parser Expr}
    (hs : SoundFor m p) (hp : StopsWithin m p)
    (hjoin : ∀ {ts us e f}, Phrase l ts e → Phrase m us f →
      Phrase l (ts ++ .op separator :: us) (join e f)) :
    ∀ (n : Nat) (left : Expr) (done ts rest : List Located) (c : Complaint),
      Phrase l (words done) left →
      chain separator join p n left ts = .error (.complaint c rest) →
      c ≠ .emptyExpression ∧ ∃ us, ts = us ++ rest ∧ Begins l (words (done ++ us)) := by
  -- what is done is a phrase all along, and with each further term it grows by that term
  intro n
  induction n with
  | zero =>
      intro left done ts rest c _ h
      exact nomatch h
  | succ n ih =>
      intro left done ts rest c hleft h
      by_cases hsep : ∃ q us, ts = ⟨.op separator, q⟩ :: us
      · obtain ⟨q, ts, rfl⟩ := hsep
        rw [chain_step] at h
        rcases bind_eq_error.mp h with hterm | ⟨⟨right, rest₁⟩, hterm, hrest⟩
        · obtain ⟨hc, us, rfl, more, f, hus⟩ := hp ts c rest hterm
          refine ⟨hc, ⟨.op separator, q⟩ :: us, rfl, more, join left f, ?_⟩
          rw [words_append, words_cons, List.append_assoc]
          exact hjoin hleft hus
        · obtain ⟨us, rfl, hus⟩ := hs ts right rest₁ hterm
          have hdone : Phrase l (words (done ++ ⟨.op separator, q⟩ :: us)) (join left right) := by
            rw [words_append, words_cons]
            exact hjoin hleft hus
          obtain ⟨hc, vs, rfl, hvs⟩ := ih _ _ _ _ _ hdone hrest
          refine ⟨hc, ⟨.op separator, q⟩ :: us ++ vs, by simp, ?_⟩
          rw [← List.append_assoc]
          exact hvs
      · rw [chain_over hsep] at h
        exact nomatch h

theorem conjunction_stops {p : Parser Expr} (hs : SoundFor .operand p)
    (hp : StopsWithin .operand p) : StopsWithin .conjunction (conjunction p) := by
  intro ts c rest h
  rcases bind_eq_error.mp h with hleft | ⟨⟨left, rest₁⟩, hleft, hchain⟩
  · obtain ⟨hc, us, rfl, more, e, hus⟩ := comparison_stops hs hp ts c rest hleft
    exact ⟨hc, us, rfl, more, e, .oneComparison hus⟩
  · obtain ⟨us, rfl, hus⟩ := comparison_sound hs ts left rest₁ hleft
    obtain ⟨hc, vs, rfl, hvs⟩ := chain_stops (comparison_sound hs) (comparison_stops hs hp) .and
      _ _ us _ _ _ (.oneComparison hus) hchain
    exact ⟨hc, us ++ vs, (List.append_assoc _ _ _).symm, hvs⟩

theorem disjunction_stops {p : Parser Expr} (hs : SoundFor .operand p)
    (hp : StopsWithin .operand p) : StopsWithin .disjunction (disjunction p) := by
  intro ts c rest h
  rcases bind_eq_error.mp h with hleft | ⟨⟨left, rest₁⟩, hleft, hchain⟩
  · obtain ⟨hc, us, rfl, more, e, hus⟩ := conjunction_stops hs hp ts c rest hleft
    exact ⟨hc, us, rfl, more, e, .oneConjunction hus⟩
  · obtain ⟨us, rfl, hus⟩ := conjunction_sound hs ts left rest₁ hleft
    obtain ⟨hc, vs, rfl, hvs⟩ := chain_stops (conjunction_sound hs) (conjunction_stops hs hp) .or
      _ _ us _ _ _ (.oneConjunction hus) hchain
    exact ⟨hc, us ++ vs, (List.append_assoc _ _ _).symm, hvs⟩

/-- A missing parenthesis is complained about where it should stand. -/
theorem closing_eq_complaint {e : Expr} {ts rest : List Located} {c : Complaint}
    (h : closing e ts = .error (.complaint c rest)) : c = .expected .closeParen ∧ ts = rest := by
  unfold closing at h
  split at h
  · exact nomatch h
  · cases h
    exact ⟨rfl, rfl⟩

/-- **Where an operand is complained about, it could have gone on.** -/
theorem operand_stops (d : Nat) : StopsWithin .operand (operand d) := by
  -- a group has a smaller allowance by more than one
  induction d using Nat.strongRecOn with
  | ind d ih =>
      intro ts c rest h
      cases d with
      | zero => cases h
      | succ d =>
          unfold operand at h
          split at h
          · next q ts =>
              obtain ⟨hc, us, rfl, more, e, hus⟩ :=
                ih d (Nat.lt_succ_self d) ts c rest (map_eq_error.mp h)
              exact ⟨hc, ⟨.op .not, q⟩ :: us, rfl, more, _, .not hus⟩
          · next q ts =>
              obtain ⟨hc, us, rfl, more, e, hus⟩ :=
                ih d (Nat.lt_succ_self d) ts c rest (map_eq_error.mp h)
              exact ⟨hc, ⟨.op .minus, q⟩ :: us, rfl, more, _, .negate hus⟩
          · next q ts =>
              split at h
              · next k =>
                  rcases bind_eq_error.mp h with hinner | ⟨⟨e, rest₁⟩, hinner, hclosing⟩
                  · obtain ⟨hc, us, rfl, more, e, hus⟩ := disjunction_stops (operand_sound k)
                      (ih k (by omega)) ts c rest hinner
                    refine ⟨hc, ⟨.op .openParen, q⟩ :: us, rfl, more ++ [.op .closeParen], e, ?_⟩
                    rw [words_cons, List.cons_append, ← List.append_assoc]
                    exact .group hus
                  · obtain ⟨us, rfl, hus⟩ := disjunction_sound (operand_sound k) ts e rest₁ hinner
                    obtain ⟨rfl, rfl⟩ := closing_eq_complaint hclosing
                    exact ⟨by simp, ⟨.op .openParen, q⟩ :: us, rfl, [.op .closeParen], e,
                      .group hus⟩
              · cases h
          · exact primary_stops ts c rest h

/-! ## The token that is complained about -/

/-- Parsing complains where the disjunction does, or about the first token that it leaves. -/
theorem parseWithin_eq_complaint {d : Nat} {ts rest : List Located} {c : Complaint}
    (hne : ts ≠ []) :
    parseWithin d ts = .error (.complaint c rest) ↔
      disjunction (operand d) ts = .error (.complaint c rest) ∨
        ∃ e t after, disjunction (operand d) ts = .ok (e, rest) ∧ rest = t :: after ∧
          c = .unexpectedToken t.token := by
  obtain ⟨t, ts, rfl⟩ := List.exists_cons_of_ne_nil hne
  refine bind_eq_error.trans (or_congr_right ⟨?_, ?_⟩)
  · rintro ⟨⟨e, left⟩, hok, h⟩
    cases left with
    | nil => exact nomatch h
    | cons u us =>
        cases h
        exact ⟨e, u, us, hok, rfl, rfl⟩
  · rintro ⟨e, u, us, hok, rfl, rfl⟩
    exact ⟨_, hok, rfl⟩

/-- Where parsing complains, it has taken viable words. -/
theorem parseWithin_stops {d : Nat} {ts rest : List Located} {c : Complaint} (hne : ts ≠ [])
    (h : parseWithin d ts = .error (.complaint c rest)) :
    c ≠ .emptyExpression ∧ ∃ before, ts = before ++ rest ∧ Viable (words before) := by
  rcases (parseWithin_eq_complaint hne).mp h with herror | ⟨e, t, after, hok, -, rfl⟩
  · exact disjunction_stops (operand_sound d) (operand_stops d) ts c rest herror
  · obtain ⟨before, rfl, hbefore⟩ := disjunction_sound (operand_sound d) ts e rest hok
    refine ⟨by simp, before, rfl, [], e, ?_⟩
    rw [List.append_nil]
    exact hbefore

/-- **Parsing complains about a token whatever follows it.** -/
theorem parseWithin_same {d : Nat} {before after : List Located} {t : Located} {c : Complaint}
    (h : parseWithin d (before ++ t :: after) = .error (.complaint c (t :: after)))
    (after' : List Located) :
    parseWithin d (before ++ t :: after') = .error (.complaint c (t :: after')) := by
  have hne : ∀ us : List Located, before ++ t :: us ≠ [] := fun us =>
    List.append_ne_nil_of_right_ne_nil before (List.cons_ne_nil t us)
  have hlook := disjunction_looksAhead (operand_sound d) (operand_looksAhead d)
  have hhead : (t :: after).head? = (t :: after').head? := rfl
  refine (parseWithin_eq_complaint (hne after')).mpr ?_
  rcases (parseWithin_eq_complaint (hne after)).mp h with herror | ⟨e, u, us, hok, hrest, hc⟩
  · exact Or.inl (hlook.same (x := .error c) hhead herror)
  · cases hrest
    exact Or.inr ⟨e, t, after', hlook.same (x := .ok e) hhead hok, rfl, hc⟩

/-- With the token that is complained about, the words are not viable. -/
theorem not_viable_of_complaint {d : Nat} {before after : List Located} {t : Located}
    {c : Complaint}
    (h : parseWithin d (before ++ t :: after) = .error (.complaint c (t :: after))) :
    ¬Viable (words (before ++ [t])) := by
  rintro ⟨more, e, hsentence⟩
  -- the sentence is a list of tokens that parsing takes, and that it complains about
  have hwords : words (before ++ t :: more.map fun w => ⟨w, 0⟩)
      = words (before ++ [t]) ++ more := by
    rw [List.append_cons, words_append]
    refine congrArg (words (before ++ [t]) ++ ·) ?_
    rw [words, List.map_map]
    exact List.map_id more
  rw [← hwords] at hsentence
  have hcomplaint := parseWithin_same h (more.map fun w => ⟨w, 0⟩)
  rcases parseWithin_of_sentence d hsentence with hdeep | hok
  · cases hdeep.symm.trans hcomplaint
  · cases hok.symm.trans hcomplaint

/-- A complaint about a text is one about its tokens. -/
theorem parseGuard_eq_complaint {allowance : Nat} {source : String} {ts : List Located}
    {c : Complaint} {p : Nat} (hlex : lex source = .ok ts)
    (h : parseGuard allowance source = .error (.complaint c p)) :
    ∃ c' rest, parseWithin allowance ts = .error (.complaint c' rest) ∧
      (c' ≠ .emptyExpression → p = positionOf rest source.length) := by
  rw [parseGuard, hlex] at h
  cases hparse : parseWithin allowance ts with
  | ok e =>
      simp only [bind, Except.bind, hparse] at h
      cases h
  | error stop =>
      simp only [bind, Except.bind, hparse] at h
      cases stop with
      | tooDeep => cases h
      | complaint c' rest =>
          refine ⟨c', rest, rfl, fun hc => ?_⟩
          cases c' with
          | emptyExpression => exact absurd rfl hc
          | _ =>
              cases h
              rfl

/-- **Parsing complains at the earliest possible token.**  Take a text that has tokens and is
    complained about by the parser, whatever its allowance.  The complaint is about one of the tokens or
    about the end of the text.  The words before it are viable.  With the token that it is about they
    are viable no more; and if it is about the end, they are no sentence. -/
theorem parseGuard_complains_earliest {allowance : Nat} {source : String} {ts : List Located}
    {c : Complaint} {p : Nat} (hlex : lex source = .ok ts) (hne : ts ≠ [])
    (h : parseGuard allowance source = .error (.complaint c p)) :
    ∃ before rest, ts = before ++ rest ∧ p = positionOf rest source.length ∧
      Viable (words before) ∧
      (∀ t after, rest = t :: after → ¬Viable (words (before ++ [t]))) ∧
      (rest = [] → ¬∃ e, Sentence (words ts) e) := by
  obtain ⟨c', rest, hparse, hposition⟩ := parseGuard_eq_complaint hlex h
  obtain ⟨hc, before, hsplit, hviable⟩ := parseWithin_stops hne hparse
  refine ⟨before, rest, hsplit, hposition hc, hviable, ?_, ?_⟩
  · rintro t after rfl
    rw [hsplit] at hparse
    exact not_viable_of_complaint hparse
  · rintro - ⟨e, hsentence⟩
    rcases parseWithin_of_sentence allowance hsentence with hdeep | hok
    · exact nomatch hdeep.symm.trans hparse
    · exact nomatch hok.symm.trans hparse

/-- In `1 < session.x < 2` the second comparison is the earliest token that is out of place. -/
theorem parseGuard_complains_earliest_comparison :
    let ts : List Located := [⟨.number (.integer 1), 0⟩, ⟨.op (.compare .below), 2⟩,
      ⟨.name "session", 4⟩, ⟨.op .dot, 11⟩, ⟨.name "x", 12⟩, ⟨.op (.compare .below), 14⟩,
      ⟨.number (.integer 2), 16⟩]
    lex "1 < session.x < 2" = .ok ts ∧ ts ≠ [] ∧
      parseGuard 970 "1 < session.x < 2"
        = .error (.complaint (.unexpectedToken (.op (.compare .below))) 14) ∧
      ∃ before rest, ts = before ++ rest ∧ 14 = positionOf rest 17 ∧ Viable (words before) ∧
        ∀ t after, rest = t :: after → ¬Viable (words (before ++ [t])) := by
  intro ts
  have hlex : lex "1 < session.x < 2" = .ok ts := rfl
  have hne : ts ≠ [] := List.cons_ne_nil _ _
  have hparse : parseGuard 970 "1 < session.x < 2"
      = .error (.complaint (.unexpectedToken (.op (.compare .below))) 14) := rfl
  obtain ⟨before, rest, hsplit, hposition, hviable, hnot, -⟩ :=
    parseGuard_complains_earliest hlex hne hparse
  exact ⟨hlex, hne, hparse, before, rest, hsplit, hposition, hviable, hnot⟩

end LessonVariants
