import LessonVariants.Guard.Template
import LessonVariants.Proofs.Guard.Verdict

/-! # Quoted text is one literal

    A text goes into a guard as a string literal (`stringLiteral`): backslashes and apostrophes get
    a backslash before them.  Reading a string undoes just that, character by character
    (`stringBody_escaped`), whatever the text holds: a literal is one token with the text as its
    value, and it stays one behind other guard text (`lex_append_stringLiteral`).

    So the ready-made guards for preferences compare the preference with the very text they were
    made for (`preference_guards_quote`). -/

namespace LessonVariants

/-! ## Escaping and reading back -/

/-- Characters with a backslash before every backslash and apostrophe. -/
def escaped (cs : List Char) : List Char :=
  cs.flatMap fun c => if c = '\\' ∨ c = '\'' then ['\\', c] else [c]

/-- A string literal is the escaped text between apostrophes. -/
theorem toList_stringLiteral (text : String) :
    (stringLiteral text).toList = '\'' :: (escaped text.toList ++ ['\'']) := by
  rw [stringLiteral, String.toList_ofList]
  rfl

theorem escaped_special {c : Char} (hc : c = '\\' ∨ c = '\'') (cs : List Char) :
    escaped (c :: cs) = '\\' :: c :: escaped cs := by
  rw [escaped, List.flatMap_cons, if_pos hc]
  rfl

theorem escaped_plain {c : Char} (hc : ¬(c = '\\' ∨ c = '\'')) (cs : List Char) :
    escaped (c :: cs) = c :: escaped cs := by
  rw [escaped, List.flatMap_cons, if_neg hc]
  rfl

/-- **Reading undoes escaping**: the characters up to the closing apostrophe are those that were
    escaped. -/
theorem stringBody_escaped (cs rest : List Char) :
    stringBody '\'' (escaped cs ++ '\'' :: rest) = some (cs, (escaped cs).length + 1) := by
  induction cs with
  | nil => exact stringBody_cons (by decide) rest
  | cons c cs ih =>
      by_cases hc : c = '\\' ∨ c = '\''
      · -- a backslash is written before the two, and neither stands for anything but itself
        have hself : unescape c = c := by
          rcases hc with rfl | rfl <;> rfl
        have hfeed : c ≠ '\n' := by
          rcases hc with rfl | rfl <;> decide
        rw [escaped_special hc, List.cons_append, List.cons_append, stringBody, if_neg hfeed, ih,
          Option.map_some, hself]
        rfl
      · obtain ⟨hback, hquote⟩ := not_or.mp hc
        rw [escaped_plain hc, List.cons_append, stringBody_cons hback, if_neg hquote, ih]
        rfl

/-! ## Tokens of literals -/

/-- The lexeme at the head of a literal is all of it. -/
theorem lexeme?_stringLiteral (text : String) :
    lexeme? (stringLiteral text).toList
      = some (.ok ⟨.string text, (stringLiteral text).toList.length⟩) := by
  have hbody := stringBody_escaped text.toList []
  rw [toList_stringLiteral]
  refine lexeme?_eq_ok.mpr (Or.inr ⟨rfl, Or.inl ?_⟩)
  rw [stringLexeme?, if_pos (Or.inl rfl), hbody, Option.map_some]
  simp

/-- The scan of a literal takes the one token and leaves nothing. -/
theorem scan_stringLiteral (text : String) (p : Nat) :
    ∃ q, Scan p (stringLiteral text).toList [⟨.string text, p⟩] q [] := by
  have hlexeme := lexeme?_stringLiteral text
  generalize hsize : (stringLiteral text).toList.length = size at hlexeme
  rw [toList_stringLiteral] at hsize hlexeme ⊢
  refine ⟨p + size, .lexeme (l := ⟨.string text, size⟩) rfl hlexeme ?_⟩
  rw [List.drop_of_length_le (Nat.le_of_eq hsize)]
  exact .stop _ []

/-- **A literal is one token**, and its value is the text. -/
theorem lex_stringLiteral (text : String) : lex (stringLiteral text) = .ok [⟨.string text, 0⟩] :=
  lex_eq_ok.mpr (scan_stringLiteral text 0)

/-- Behind other guard text, too, a literal is one token. -/
theorem lex_append_stringLiteral {source : String} {ts : List Located} (h : lex source = .ok ts)
    (text : String) :
    ∃ q, lex (source ++ stringLiteral text) = .ok (ts ++ [⟨.string text, q⟩]) := by
  obtain ⟨q, hscan⟩ := lex_eq_ok.mp h
  obtain ⟨r, hliteral⟩ := scan_stringLiteral text q
  refine ⟨q, lex_eq_ok.mpr ⟨r, ?_⟩⟩
  rw [String.toList_append]
  rw [toList_stringLiteral] at hliteral ⊢
  -- the opening apostrophe goes on with no lexeme of the text before it
  exact (hscan.before (by decide) _).append hliteral

/-! ## Guards on preferences -/

/-- The path to a preference, given by its wire name. -/
def preferencePath (name : String) : Expr :=
  .path .session [.key "user", .key "preferences", .key name, .key "value"]

/-- The words of a path to a preference, of an equality sign and of a string. -/
def preferenceWords (name text : String) : List Token :=
  [.name "session", .op .dot, .name "user", .op .dot, .name "preferences", .op .dot, .name name,
    .op .dot, .name "value", .op (.compare .equal), .string text]

/-- The expression that a preference equals a text. -/
def preferenceIs (name text : String) : Expr :=
  .compare .equal (preferencePath name) (.literal (.text text))

/-- Guard text that compares a preference with a text, and nothing else.  It is not nested, so one
    level is enough to parse it. -/
def ComparesPreference (source name text : String) : Prop :=
  ∃ ts, lex source = .ok ts ∧ words ts = preferenceWords name text ∧
    ∀ d, parseWithin (d + 1) ts = .ok (preferenceIs name text)

theorem themeGuard_compares (text : String) : ComparesPreference (themeGuard text) "theme" text := by
  have hprefix : lex "session.user.preferences.theme.value == " = .ok
      [⟨.name "session", 0⟩, ⟨.op .dot, 7⟩, ⟨.name "user", 8⟩, ⟨.op .dot, 12⟩,
        ⟨.name "preferences", 13⟩, ⟨.op .dot, 24⟩, ⟨.name "theme", 25⟩, ⟨.op .dot, 30⟩,
        ⟨.name "value", 31⟩, ⟨.op (.compare .equal), 37⟩] := rfl
  obtain ⟨q, hlex⟩ := lex_append_stringLiteral hprefix text
  exact ⟨_, hlex, rfl, fun d => rfl⟩

theorem modalityGuard_compares (text : String) :
    ComparesPreference (modalityGuard text) "modalityBias" text := by
  have hprefix : lex "session.user.preferences.modalityBias.value == " = .ok
      [⟨.name "session", 0⟩, ⟨.op .dot, 7⟩, ⟨.name "user", 8⟩, ⟨.op .dot, 12⟩,
        ⟨.name "preferences", 13⟩, ⟨.op .dot, 24⟩, ⟨.name "modalityBias", 25⟩, ⟨.op .dot, 37⟩,
        ⟨.name "value", 38⟩, ⟨.op (.compare .equal), 44⟩] := rfl
  obtain ⟨q, hlex⟩ := lex_append_stringLiteral hprefix text
  exact ⟨_, hlex, rfl, fun d => rfl⟩

variable {ρ : Type} [Scalar ρ]

/-- A preference of the learner that is found under a name. -/
def NamesPreference (name : String) (preference? : Preferences ρ → Option (Preference ρ)) : Prop :=
  ∀ walked prefs, Value.member walked prefs.view (.text name)
    = .ok (Value.ofOption Preference.view (preference? prefs))

theorem names_theme : NamesPreference (ρ := ρ) "theme" Preferences.theme :=
  fun _ _ => rfl

theorem names_modalityBias : NamesPreference (ρ := ρ) "modalityBias" Preferences.modalityBias :=
  fun _ _ => rfl

/-- Texts are equal as values just if they are the same text. -/
theorem Value.compare_texts (d : Nat) (s t : String) :
    Value.compare (ρ := ρ) d false .equal (.text s) (.text t) = .ok (decide (s = t)) := by
  simp [Value.compare, Value.equalsAt, Value.sameLevels, Value.equals, Value.same,
    Bool.beq_eq_decide_eq]

variable {name text : String} {preference? : Preferences ρ → Option (Preference ρ)}

/-- The path to a preference goes through the learner's preferences. -/
theorem preferencePath_eval (hname : NamesPreference name preference?) (a : Activation ρ) (d : Nat) :
    (preferencePath name).evalWithin a.scope (d + 1)
      = (Value.ofOption Preference.view (preference? a.session.user.preferences)).follow
          ⟨"session", [.text "user", .text "preferences", .text name]⟩ [.text "value"] := by
  show Value.follow a.session.user.preferences.view ⟨"session", [.text "user", .text "preferences"]⟩
    [.text name, .text "value"] = _
  rw [Value.follow, hname]
  rfl

/-- Where a preference is set, its comparison with a text has a value; where it is not, there is
    nothing to compare, and guards may fail with that.  Two levels are enough. -/
theorem preferenceIs_holds (hname : NamesPreference name preference?) (a : Activation ρ) (d : Nat) :
    (preferenceIs name text).holds a.scope (d + 2)
      = .ok (decide ((preference? a.session.user.preferences).map (·.value) = some text)) := by
  have heval : (preferenceIs name text).evalWithin a.scope (d + 2) = (do
      let v ← (preferencePath name).evalWithin a.scope (d + 1)
      return .bool (← Value.compare (d + 1) false .equal v (.text text))) := rfl
  rw [Expr.holds, heval, preferencePath_eval hname]
  cases preference? a.session.user.preferences with
  | none => rfl
  | some p =>
      have hvalue : (Value.ofOption Preference.view (some p)).follow
          ⟨"session", [.text "user", .text "preferences", .text name]⟩ [.text "value"]
          = .ok (.text p.value) := rfl
      simp only [hvalue, bind, Except.bind, Value.compare_texts, Option.map_some, Option.some_inj]
      rfl

/-- **Text that compares a preference with another text** is compiled to a predicate that never
    fails, and holds just if the preference is set and its value is that other text. -/
theorem ComparesPreference.compiled {source : String} (h : ComparesPreference source name text)
    (hname : NamesPreference name preference?) {room : Room} {cache : GuardCache}
    (hcache : cache.Reachable (CutAlike room.parsing)) (hparsing : 1 ≤ room.parsing)
    (hevaluation : 2 ≤ room.evaluation) :
    ∃ p cache', cache.compile room.parsing (some (.text source)) = .ok (p, cache') ∧
      ∀ a : Activation ρ, p.run a room.evaluation
        = .ok (decide ((preference? a.session.user.preferences).map (·.value) = some text)) := by
  obtain ⟨ts, hlex, -, hparse⟩ := h
  obtain ⟨d, hd⟩ : ∃ k, room.parsing = k + 1 := ⟨room.parsing - 1, by omega⟩
  obtain ⟨k, hk⟩ : ∃ k, room.evaluation = k + 2 := ⟨room.evaluation - 2, by omega⟩
  have hguard : parseGuard room.parsing source = .ok (preferenceIs name text) := by
    rw [hd]
    exact parseGuard_eq_ok.mpr ⟨ts, hlex, hparse d⟩
  have hsize : ¬Oversized source := by
    rw [← parseGuard_oversized (d := room.parsing), hguard]
    exact fun h => nomatch h
  obtain ⟨p, cache', hcompile⟩ := hcache.compile_iff.mpr hsize
  refine ⟨p, cache', hcompile, fun a => ?_⟩
  rw [GuardCache.run_eq_answer hcompile, GuardCache.answer_text,
    GuardCache.textVerdict_text (not_blank_of_parseGuard hguard), hcache.reading_eq,
    GuardCache.parse_eq_some.mpr hguard]
  show (preferenceIs name text).holds a.scope room.evaluation = _
  rw [hk]
  exact preferenceIs_holds hname a k

/-- **A text put into a guard stays a text.**  Its literal is one token with that very text as its
    value.  Both guards on preferences have the words of the path to their preference, an equality
    sign and that token, and are parsed as this one comparison, whatever the text holds.  Compiled
    in any state of the cache, they pass just if the preference is set and its value is the text.  One
    level is room enough to parse them, and two to evaluate them. -/
theorem preference_guards_quote {room : Room} {cache : GuardCache}
    (hcache : cache.Reachable (CutAlike room.parsing)) (hparsing : 1 ≤ room.parsing)
    (hevaluation : 2 ≤ room.evaluation) (text : String) :
    lex (stringLiteral text) = .ok [⟨.string text, 0⟩] ∧
    ComparesPreference (themeGuard text) "theme" text ∧
    ComparesPreference (modalityGuard text) "modalityBias" text ∧
    (∃ p cache', cache.compile room.parsing (some (.text (themeGuard text))) = .ok (p, cache') ∧
      ∀ a : Activation ρ, p.run a room.evaluation
        = .ok (decide (a.session.user.preferences.theme.map (·.value) = some text))) ∧
    (∃ p cache', cache.compile room.parsing (some (.text (modalityGuard text))) = .ok (p, cache') ∧
      ∀ a : Activation ρ, p.run a room.evaluation
        = .ok (decide (a.session.user.preferences.modalityBias.map (·.value) = some text))) :=
  ⟨lex_stringLiteral text, themeGuard_compares text, modalityGuard_compares text,
    (themeGuard_compares text).compiled names_theme hcache hparsing hevaluation,
    (modalityGuard_compares text).compiled names_modalityBias hcache hparsing hevaluation⟩

/-- A theme whose text would close the literal and go on with an operator stays a theme. -/
theorem preference_guards_quote_injection :
    let room : Room := ⟨970, 970⟩
    let text := "\\' || true || '\n"
    let a : Activation Rat := ⟨{ metrics := Metrics.initial }, "s", { id := "v" }⟩
    stringLiteral text = "'\\\\\\' || true || \\'\n'" ∧
      GuardCache.Reachable (CutAlike room.parsing) {} ∧ 1 ≤ room.parsing ∧ 2 ≤ room.evaluation ∧
      ∃ p cache', GuardCache.compile {} room.parsing (some (.text (themeGuard text)))
          = .ok (p, cache') ∧
        p.run a room.evaluation = .ok false := by
  intro room text a
  have hparsing : 1 ≤ room.parsing := by decide
  have hevaluation : 2 ≤ room.evaluation := by decide
  obtain ⟨-, -, -, ⟨p, cache', hcompile, hrun⟩, -⟩ :=
    preference_guards_quote (ρ := Rat) GuardCache.Reachable.start hparsing hevaluation text
  exact ⟨by decide, .start, hparsing, hevaluation, p, cache', hcompile, hrun a⟩

end LessonVariants
