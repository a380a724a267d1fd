import LessonVariants.Proofs.Guard.Written

/-! # Tokens tile the text

    The tokens of guard text lie one after the other, each the longest one that is written where it
    begins, and nothing but blanks lies between them (`Tiles`).  A text has tokens just if it is
    tiled to its end, and a character is out of place just if it stands where a tiling cannot go on.

    Tiles stay what they are when blanks are put between them (`Tiles.insert`). -/

namespace LessonVariants

/-- A text that starts at a position is tiled by tokens and blanks; the rest is left at another
    position. -/
inductive Tiles : Nat → List Char → List Located → Nat → List Char → Prop where
  | stop (p : Nat) (cs : List Char) : Tiles p cs [] p cs
  | blank {p q : Nat} {c : Char} {cs rest : List Char} {ts : List Located} :
      isBlank c = true → Tiles (p + 1) cs ts q rest → Tiles p (c :: cs) ts q rest
  | token {p q : Nat} {t : Token} {text after rest : List Char} {ts : List Located} :
      Longest t text after → ¬Overlong t text.length → Tiles (p + text.length) after ts q rest →
      Tiles p (text ++ after) (⟨t, p⟩ :: ts) q rest

/-- A token further on in a text. -/
def Located.shift (k : Nat) (t : Located) : Located :=
  ⟨t.token, t.position + k⟩

/-- A text is tiled just if it is scanned. -/
theorem tiles_iff {p q : Nat} {cs rest : List Char} {ts : List Located} :
    Tiles p cs ts q rest ↔ Scan p cs ts q rest := by
  constructor
  · intro h
    induction h with
    | stop p cs => exact .stop p cs
    | blank hc _ ih => exact .blank hc ih
    | @token p q t text after rest ts hlongest hfits _ ih =>
        have hl : lexeme? (text ++ after) = some (.ok ⟨t, text.length⟩) :=
          lexeme?_eq_longest.mpr ⟨text, after, rfl, rfl, hlongest, hfits⟩
        have hdrop : (text ++ after).drop text.length = after := List.drop_left
        rw [← hdrop] at ih
        obtain ⟨c, cs, rfl, hc⟩ := hlongest.1.begins
        exact .lexeme hc hl ih
  · intro h
    induction h with
    | stop p cs => exact .stop p cs
    | blank hc _ ih => exact .blank hc ih
    | @lexeme p q c cs rest ts l hc hl _ ih =>
        obtain ⟨text, after, hsplit, hlen, hlongest, hfits⟩ := lexeme?_eq_longest.mp hl
        rw [hsplit, ← hlen, List.drop_left] at ih
        rw [hsplit]
        rw [← hlen] at hfits
        exact .token hlongest hfits ih

/-- What is tiled is a part of the text, and tiled by itself. -/
theorem Tiles.front {p q : Nat} {cs rest : List Char} {ts : List Located}
    (h : Tiles p cs ts q rest) :
    ∃ front, cs = front ++ rest ∧ q = p + front.length ∧ Tiles p front ts q [] := by
  induction h with
  | stop p cs => exact ⟨[], rfl, rfl, .stop p []⟩
  | @blank p q c cs rest ts hc _ ih =>
      obtain ⟨front, rfl, hq, hfront⟩ := ih
      refine ⟨c :: front, rfl, ?_, .blank hc hfront⟩
      rw [hq, List.length_cons]
      omega
  | @token p q t text after rest ts hlongest hfits _ ih =>
      obtain ⟨front, rfl, hq, hfront⟩ := ih
      refine ⟨text ++ front, (List.append_assoc _ _ _).symm, ?_, .token ?_ hfits hfront⟩
      · rw [hq, List.length_append, Nat.add_assoc]
      · -- what is longest before a text is longest before a part of it
        refine ⟨hlongest.1, fun u other tail hsplit hu => ?_⟩
        refine hlongest.2 u other (tail ++ rest) ?_ hu
        rw [← List.append_assoc, hsplit, List.append_assoc]

/-- Blanks have no tokens. -/
theorem scan_blanks {blanks : List Char} (h : ∀ c ∈ blanks, isBlank c = true) (p : Nat)
    (rest : List Char) : Scan p (blanks ++ rest) [] (p + blanks.length) rest := by
  induction blanks generalizing p with
  | nil => exact .stop p rest
  | cons c cs ih =>
      have hcs := ih (fun d hd => h d (List.mem_cons_of_mem c hd)) (p + 1)
      rw [List.length_cons, Nat.add_comm cs.length, ← Nat.add_assoc]
      exact .blank (h c List.mem_cons_self) hcs

/-- **Blanks between tiles change nothing but positions.** -/
theorem Tiles.insert {p q r : Nat} {front back blanks : List Char} {us vs : List Located}
    (hfront : Tiles p (front ++ back) us q back) (hback : Tiles q back vs r [])
    (hblanks : ∀ c ∈ blanks, isBlank c = true) :
    Tiles p (front ++ (blanks ++ back)) (us ++ vs.map (Located.shift blanks.length))
      (r + blanks.length) [] := by
  rw [tiles_iff] at hback
  cases blanks with
  | nil =>
      have hsame : vs.map (Located.shift 0) = vs := List.map_id vs
      rw [List.nil_append, List.length_nil, hsame]
      exact tiles_iff.mpr ((tiles_iff.mp hfront).append hback)
  | cons c cs =>
      obtain ⟨own, hsplit, -, hown⟩ := hfront.front
      obtain rfl := List.append_cancel_right hsplit
      have hc := separates_of_isBlank (hblanks c List.mem_cons_self)
      have hbefore := (tiles_iff.mp hown).before hc (cs ++ back)
      have hgap := scan_blanks hblanks q back
      exact tiles_iff.mpr (hbefore.append (hgap.append (hback.shift _)))

/-- The one error of a lexeme is an integer of too many digits. -/
theorem lexeme?_error {cs : List Char} {m : Malformed} (h : lexeme? cs = some (.error m)) :
    m = .oversizedInteger := by
  rw [lexeme?_admitted] at h
  obtain ⟨l, -, hl⟩ := Option.map_eq_some_iff.mp h
  unfold Lexeme.admitted at hl
  split at hl
  · split at hl
    · exact (Except.error.inj hl).symm
    · exact nomatch hl
  · exact nomatch hl

/-- A text has tokens just if they tile it to its end. -/
theorem lex_eq_ok_tiles {source : String} {ts : List Located} :
    lex source = .ok ts ↔ Tiles 0 source.toList ts source.length [] := by
  rw [lex_eq_ok]
  constructor
  · rintro ⟨q, h⟩
    have htiles := tiles_iff.mpr h
    obtain ⟨front, hfront, hq, -⟩ := htiles.front
    rw [List.append_nil] at hfront
    rw [Nat.zero_add, ← hfront, String.length_toList] at hq
    rw [← hq]
    exact htiles
  · intro h
    exact ⟨_, tiles_iff.mp h⟩

/-- A text is complained about where its tiling cannot go on. -/
theorem lex_eq_complaint {source : String} {c : Complaint} {p : Nat} :
    lex source = .error (.complaint c p) ↔
      ∃ ts d rest, c = .unexpectedCharacter d ∧ Tiles 0 source.toList ts p (d :: rest) ∧
        isBlank d = false ∧ ∀ t text after, d :: rest = text ++ after → ¬Written t text := by
  rw [lex, lexFrom_eq_error]
  constructor
  · rintro ⟨ts, q, rest, hscan, hrefused⟩
    cases hrefused with
    | unknown hd hnone =>
        exact ⟨ts, _, _, rfl, tiles_iff.mpr hscan, hd, lexeme?_eq_none.mp hnone⟩
    | faulty _ herror => cases lexeme?_error herror
  · rintro ⟨ts, d, rest, rfl, htiles, hd, hnone⟩
    exact ⟨ts, p, _, tiles_iff.mp htiles, .unknown hd (lexeme?_eq_none.mpr hnone)⟩

/-- **Reading tokens is maximal munch, and it tiles the text.**  A text has tokens just if they and
    blanks cover it from its beginning to its end, each token being the longest one that is written
    where it begins, whichever its class.  A text is complained about at the first character after
    such a tiling that neither is a blank nor begins a token.  (A text may also be refused for an
    integer of too many digits.)

    A number that is written without a point and without a mark is the integer that its digits
    denote.  Blanks that are put where two tiles meet move the tokens behind them, and change no
    token. -/
theorem lex_tiles (source : String) :
    (∀ ts, lex source = .ok ts ↔ Tiles 0 source.toList ts source.length []) ∧
    (∀ c p, lex source = .error (.complaint c p) ↔
      ∃ ts d rest, c = .unexpectedCharacter d ∧ Tiles 0 source.toList ts p (d :: rest) ∧
        isBlank d = false ∧ ∀ t text after, d :: rest = text ++ after → ¬Written t text) ∧
    (∀ n text, Written (.number n) text → (∀ c ∈ text, c ∉ ['.', 'e', 'E']) →
      ∃ ds, Digits text ds ∧ n = .integer (Nat.ofDigits 10 ds.reverse)) ∧
    ∀ front back blanks us ts, source.toList = front ++ back →
      Tiles 0 source.toList us front.length back → (∀ c ∈ blanks, isBlank c = true) →
      lex source = .ok ts → ∃ vs, ts = us ++ vs ∧
        lex (String.ofList (front ++ (blanks ++ back)))
          = .ok (us ++ vs.map (Located.shift blanks.length)) := by
  refine ⟨fun ts => lex_eq_ok_tiles, fun c p => lex_eq_complaint, fun n text h hplain => ?_, ?_⟩
  · cases h with
    | number hn => exact hn.integer hplain
  · intro front back blanks us ts hsource hfront hblanks hlex
    -- the tokens behind the boundary are those of the text behind it
    rw [lex, (tiles_iff.mp hfront).lexFrom_eq] at hlex
    obtain ⟨vs, hvs, rfl⟩ := map_eq_ok.mp hlex
    obtain ⟨r, hback⟩ := lexFrom_eq_ok.mp hvs
    rw [hsource] at hfront
    have hinsert := hfront.insert (tiles_iff.mpr hback) hblanks
    refine ⟨vs, rfl, lex_eq_ok.mpr ⟨r + blanks.length, ?_⟩⟩
    rw [String.toList_ofList]
    exact tiles_iff.mp hinsert

/-- In `a<.5` a point begins a number, since that is longer than an operator; blanks before the
    comparison change no token; and `42` is the integer. -/
theorem lex_tiles_point :
    let ts : List Located :=
      [⟨.name "a", 0⟩, ⟨.op (.compare .below), 1⟩, ⟨.number (.decimal ⟨5, -1⟩), 2⟩]
    Tiles 0 "a<.5".toList ts 4 [] ∧
      lex "a \t<.5" = .ok
        [⟨.name "a", 0⟩, ⟨.op (.compare .below), 3⟩, ⟨.number (.decimal ⟨5, -1⟩), 4⟩] ∧
      ∃ ds, Digits ['4', '2'] ds ∧ Numeral.integer 42 = .integer (Nat.ofDigits 10 ds.reverse) := by
  intro ts
  obtain ⟨hok, -, hnumber, hinsert⟩ := lex_tiles "a<.5"
  have hlex : lex "a<.5" = .ok ts := rfl
  have hname : Tiles 0 "a<.5".toList [⟨.name "a", 0⟩] 1 ['<', '.', '5'] :=
    tiles_iff.mpr (.lexeme (l := ⟨.name "a", 1⟩) rfl rfl (.stop 1 _))
  have hgap : ∀ c ∈ [' ', '\t'], isBlank c = true :=
    List.forall_mem_cons.mpr ⟨rfl, List.forall_mem_singleton.mpr rfl⟩
  obtain ⟨vs, hvs, hblanks⟩ :=
    hinsert ['a'] ['<', '.', '5'] [' ', '\t'] _ ts rfl hname hgap hlex
  obtain rfl := (List.cons.inj hvs).2
  have hdigits : Digits ['4', '2'] [4, 2] := rfl
  have hwritten : Written (.number (.integer 42)) ['4', '2'] :=
    .number (.unscaled (.whole hdigits (List.cons_ne_nil _ _)))
  exact ⟨(hok ts).mp hlex, hblanks, hnumber _ _ hwritten (by simp)⟩

end LessonVariants
