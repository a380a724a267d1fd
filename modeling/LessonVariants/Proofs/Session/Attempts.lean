import LessonVariants.Draft.Update
import LessonVariants.Proofs.Keyed
import LessonVariants.Proofs.Session.Aspects
import Mathlib.Data.List.Destutter

/-! # Calls that may fail

    A call on a session fails where an integer beyond the range of doubles would have to be joined
    with a double.  It then leaves the session as it is, except that a skill that was never tried
    has got its initial stats by then.  `Session.attempt` is the session after a call, whether it
    succeeds or not, and this is what a draft that holds nothing comes to (`Call.change_run`).

    Attempts are separated (`separated_attempt`): calls on different aspects of a session commute,
    and each aspect fares as its own calls have it (`calls_commute`). -/

namespace LessonVariants

/-! ## Calls that succeed -/

section

variable {ρ : Type} [Scalar ρ]

/-- The session after a call. -/
def Session.after (s : Session ρ) : Call ρ → Session ρ
  | .update u           => s.update u
  | .setSticky slotId r => s.putSticky slotId (.record r)

/-- A call makes of its aspect what it finds there. -/
theorem Session.after_own {s t : Session ρ} (c : Call ρ)
    (h : s.content c.aspect = t.content c.aspect) :
    (s.after c).content c.aspect = (t.after c).content c.aspect := by
  cases c with
  | setSticky slotId r =>
      show (s.sticky.insert slotId _).get? slotId = (t.sticky.insert slotId _).get? slotId
      rw [Keyed.get?_insert, Keyed.get?_insert, if_pos rfl, if_pos rfl]
  | update u =>
      cases u with
      | answer alpha correct =>
          exact congrArg (fun x : ρ × Int × Int =>
            (blend alpha x.1 (outcome correct), if correct then x.2.1 + 1 else 0, x.2.2 + 1)) h
      | latency alpha clip observed =>
          exact congrArg (fun x : ρ => blend alpha x (clip.apply observed)) h
      | idle delta =>
          exact congrArg (fun x : ρ => Scalar.maxFirst (Scalar.ofInt 0) (x + delta)) h
      | theme p => rfl
      | skillAnswer id alpha correct now =>
          have hskill : s.skill id = t.skill id :=
            congrArg (fun x : Option (SkillStats ρ) => x.getD .initial) h
          show (s.perSkill.insert id _).get? id = (t.perSkill.insert id _).get? id
          rw [Keyed.get?_insert, Keyed.get?_insert, if_pos rfl, if_pos rfl, hskill]
      | seen slotId variantId =>
          have hseen : s.seenVariants.get? slotId = t.seenVariants.get? slotId := h
          show (s.seenVariants.insert slotId _).get? slotId
            = (t.seenVariants.insert slotId _).get? slotId
          rw [Keyed.get?_insert, Keyed.get?_insert, if_pos rfl, if_pos rfl, hseen]
      | event e => exact congrArg (fun x : List (TraceEvent ρ) => x ++ [e]) h

/-- A call leaves every other aspect alone. -/
theorem Session.after_other (s : Session ρ) (c : Call ρ) {p : Aspect} (h : c.aspect ≠ p) :
    (s.after c).content p = s.content p := by
  have hkey : ∀ {α : Type} (m : Keyed α) {k l : String} (a : α), k ≠ l →
      (m.insert k a).get? l = m.get? l := by
    intro α m k l a hkl
    rw [Keyed.get?_insert, if_neg hkl.symm]
  cases c with
  | setSticky slotId r =>
      cases p with
      | sticky slotId' => exact hkey _ _ fun heq => h (congrArg Aspect.sticky heq)
      | _ => rfl
  | update u =>
      cases u with
      | skillAnswer id alpha correct now =>
          cases p with
          | skill id' => exact hkey _ _ fun heq => h (congrArg Aspect.skill heq)
          | _ => rfl
      | seen slotId variantId =>
          cases p with
          | history slotId' => exact hkey _ _ fun heq => h (congrArg Aspect.history heq)
          | _ => rfl
      | _ =>
          -- the others write a field of their own, or all of the trace
          cases p <;> first | rfl | exact absurd rfl h

/-- A call leaves alone what is no aspect. -/
theorem Session.after_elsewhere (s : Session ρ) (c : Call ρ) : s.SameElsewhere (s.after c) := by
  cases c with
  | setSticky slotId r => exact ⟨rfl, rfl, rfl, rfl, rfl, rfl, rfl⟩
  | update u => cases u <;> exact ⟨rfl, rfl, rfl, rfl, rfl, rfl, rfl⟩

/-- **A call that succeeds reads and writes no aspect but its own.** -/
theorem separated_after : Separated (Session.after (ρ := ρ)) where
  own := fun c h => Session.after_own c h
  other := fun s c _ h => s.after_other c h
  elsewhere := Session.after_elsewhere

end

/-! ## Calls that may fail -/

/-- Whether an update succeeds: its numbers can be joined with what the session has. -/
def Update.feasible (s : Session Number) : Update Number → Bool
  | .answer alpha correct           => blendable alpha s.metrics.accuracy (outcome correct)
  | .latency alpha clip observed    =>
      blendable alpha s.metrics.latency (clip.apply observed)
  | .idle delta                     => s.metrics.idleSec.compatible delta
  | .skillAnswer id alpha correct _ => blendable alpha (s.skill id).accuracy (outcome correct)
  | _                               => true

/-- What an update that fails leaves behind. -/
def Session.abandon (s : Session Number) : Update Number → Session Number
  | .skillAnswer id _ _ _ => { s with perSkill := s.perSkill.insertIfNew id .initial }
  | _                     => s

/-- The session after a call, whether it succeeds or not. -/
def Session.attempt (s : Session Number) (c : Call Number) : Session Number :=
  match c with
  | .update u      => if u.feasible s then s.update u else s.abandon u
  | .setSticky _ _ => s.after c

/-- Whether an update succeeds depends on its aspect. -/
theorem Update.feasible_congr {s t : Session Number} (u : Update Number)
    (h : s.content u.aspect = t.content u.aspect) : u.feasible s = u.feasible t := by
  cases u with
  | answer alpha correct =>
      exact congrArg (fun x : Number × Int × Int => blendable alpha x.1 (outcome correct)) h
  | latency alpha clip observed =>
      exact congrArg (fun x : Number => blendable alpha x (clip.apply observed)) h
  | idle delta => exact congrArg (fun x : Number => x.compatible delta) h
  | skillAnswer id alpha correct now =>
      exact congrArg (fun x : Option (SkillStats Number) =>
        blendable alpha (x.getD .initial).accuracy (outcome correct)) h
  | _ => rfl

/-- An update that fails makes of its aspect what it finds there. -/
theorem Session.abandon_own {s t : Session Number} (u : Update Number)
    (h : s.content u.aspect = t.content u.aspect) :
    (s.abandon u).content u.aspect = (t.abandon u).content u.aspect := by
  cases u with
  | skillAnswer id alpha correct now =>
      have hskill : s.perSkill.get? id = t.perSkill.get? id := h
      show (s.perSkill.insertIfNew id _).get? id = (t.perSkill.insertIfNew id _).get? id
      rw [Keyed.get?_insertIfNew, Keyed.get?_insertIfNew, hskill]
  | _ => exact h

/-- An update that fails leaves every other aspect alone. -/
theorem Session.abandon_other (s : Session Number) (u : Update Number) {p : Aspect}
    (h : u.aspect ≠ p) : (s.abandon u).content p = s.content p := by
  cases u with
  | skillAnswer id alpha correct now =>
      cases p with
      | skill id' =>
          have hne : id' ≠ id := fun heq => h (congrArg Aspect.skill heq.symm)
          show (s.perSkill.insertIfNew id _).get? id' = s.perSkill.get? id'
          rw [Keyed.get?_insertIfNew, if_neg hne]
      | _ => rfl
  | _ => rfl

/-- An update that fails leaves alone what is no aspect. -/
theorem Session.abandon_elsewhere (s : Session Number) (u : Update Number) :
    s.SameElsewhere (s.abandon u) := by
  cases u <;> exact ⟨rfl, rfl, rfl, rfl, rfl, rfl, rfl⟩

/-- **An attempt reads and writes no aspect but that of its call**, whether it succeeds or not. -/
theorem separated_attempt : Separated Session.attempt where
  own := by
    intro s t c h
    cases c with
    | setSticky slotId r => exact Session.after_own (.setSticky slotId r) h
    | update u =>
        have hfeasible : u.feasible s = u.feasible t := u.feasible_congr h
        show (if u.feasible s then s.update u else s.abandon u).content u.aspect
          = (if u.feasible t then t.update u else t.abandon u).content u.aspect
        rw [hfeasible]
        cases u.feasible t with
        | true => exact Session.after_own (.update u) h
        | false => exact Session.abandon_own u h
  other := by
    intro s c p h
    cases c with
    | setSticky slotId r => exact s.after_other (.setSticky slotId r) h
    | update u =>
        show (if u.feasible s then s.update u else s.abandon u).content p = s.content p
        cases u.feasible s with
        | true => exact s.after_other (.update u) h
        | false => exact s.abandon_other u h
  elsewhere := by
    intro s c
    cases c with
    | setSticky slotId r => exact s.after_elsewhere (.setSticky slotId r)
    | update u =>
        show s.SameElsewhere (if u.feasible s then s.update u else s.abandon u)
        cases u.feasible s with
        | true => exact s.after_elsewhere (.update u)
        | false => exact s.abandon_elsewhere u

/-! ## Drafts that hold nothing -/

/-- An update as a change of a draft. -/
def Update.change : Update Number → Change Unit
  | .answer alpha correct             => Draft.recordAnswer (.number alpha) correct
  | .latency alpha clip observed      => Draft.recordLatency (.number alpha) clip (.number observed)
  | .idle delta                       => Draft.addIdle (.number delta)
  | .theme p                          => Draft.preferTheme p
  | .skillAnswer id alpha correct now =>
      Draft.recordSkillAnswer id (.number alpha) correct (.number now)
  | .seen slotId variantId            => Draft.recordSeen slotId (.text variantId)
  | .event e                          => modify (·.onSession (·.recordEvent e))

/-- A call as a change of a draft. -/
def Call.change : Call Number → Change Unit
  | .update u           => u.change
  | .setSticky slotId r => modify (·.onSession (·.putSticky slotId (.record r)))

/-- A draft after a call, also as far as a call gets that fails. -/
def Draft.after (d : Draft) (c : Call Number) : Draft :=
  (c.change.run d).2

/-- A change goes on only if its condition holds. -/
theorem Change.demand_run {b : Bool} {e : DraftError} (next : Change Unit) (d : Draft) :
    (demand b e >>= fun _ => next).run d = if b then next.run d else (.error e, d) := by
  cases b <;> rfl

/-- Assigning the time of the last answer on a skill after that answer changes nothing. -/
theorem Session.assign_lastTime (s : Session Number) (id : String) (alpha : Number) (correct : Bool)
    (now : Number) :
    (⟨s.recordSkillAnswer id alpha correct now, []⟩ : Draft).assign (.lastTime id) (.number now)
      = ⟨s.recordSkillAnswer id alpha correct now, []⟩ := by
  have hstats : (s.recordSkillAnswer id alpha correct now).perSkill.get? id
      = some ((s.skill id).answered alpha correct now) := by
    rw [recordSkillAnswer, Keyed.get?_insert, if_pos rfl]
  have hassign : Place.assign? (.lastTime id) (s.recordSkillAnswer id alpha correct now)
      (.number now) = some (s.recordSkillAnswer id alpha correct now) := by
    show ((s.recordSkillAnswer id alpha correct now).perSkill.get? id).bind (fun stats => some
      { s.recordSkillAnswer id alpha correct now with
        perSkill := (s.recordSkillAnswer id alpha correct now).perSkill.insert id
          { stats with lastTs := now } }) = _
    rw [hstats]
    exact congrArg (fun m => some { s.recordSkillAnswer id alpha correct now with perSkill := m })
      (Keyed.insert_get? hstats)
  rw [Draft.assign, hassign]
  rfl

/-- The update of a draft that holds nothing is that of its session, if it is feasible. -/
theorem Update.change_run (s : Session Number) (u : Update Number) :
    u.change.run ⟨s, []⟩ =
      if u.feasible s then (.ok (), ⟨s.update u, []⟩)
      else (.error .outOfRange, ⟨s.abandon u, []⟩) := by
  cases u with
  | answer alpha correct => exact Change.demand_run _ _
  | latency alpha clip observed => exact Change.demand_run _ _
  | idle delta => exact Change.demand_run _ _
  | theme p => rfl
  | seen slotId variantId => rfl
  | event e => rfl
  | skillAnswer id alpha correct now =>
      -- the initial stats are there before anything can fail
      let started : Session Number := { s with perSkill := s.perSkill.insertIfNew id .initial }
      have hskill : started.skill id = s.skill id := by
        rw [Session.skill, Keyed.get?_insertIfNew, if_pos rfl]
        rfl
      have hrecord : started.recordSkillAnswer id alpha correct now
          = s.recordSkillAnswer id alpha correct now := by
        rw [Session.recordSkillAnswer, hskill, Keyed.insert_insertIfNew]
        rfl
      refine (Change.demand_run _ (⟨started, []⟩ : Draft)).trans ?_
      show (if blendable alpha (started.skill id).accuracy (outcome correct) then _ else _) = _
      rw [hskill]
      refine if_congr Iff.rfl ?_ rfl
      show (Except.ok (), (⟨started.recordSkillAnswer id alpha correct now, []⟩ : Draft).assign
        (.lastTime id) (.number now)) = _
      rw [hrecord, Session.assign_lastTime]
      rfl

/-- A draft that holds nothing holds nothing after a call. -/
theorem Draft.after_session (s : Session Number) (c : Call Number) :
    (⟨s, []⟩ : Draft).after c = ⟨s.attempt c, []⟩ := by
  cases c with
  | setSticky slotId r => rfl
  | update u =>
      show (u.change.run ⟨s, []⟩).2 = ⟨if u.feasible s then s.update u else s.abandon u, []⟩
      rw [u.change_run]
      cases u.feasible s <;> rfl

theorem Draft.foldl_after (s : Session Number) (calls : List (Call Number)) :
    calls.foldl after ⟨s, []⟩ = ⟨calls.foldl Session.attempt s, []⟩ := by
  induction calls generalizing s with
  | nil => rfl
  | cons c calls ih => rw [List.foldl_cons, after_session, ih, List.foldl_cons]

/-! ## Histories -/

/-- The variants that a slot has shown. -/
def Session.history {ρ : Type} (s : Session ρ) (slotId : String) : List String :=
  (s.seenVariants.get? slotId).getD []

/-- A history with further variants at its end, of which every immediate repeat is dropped. -/
def continued (history shown : List String) : List String :=
  history.dropLast ++ (history.getLast?.toList ++ shown).destutter (· ≠ ·)

theorem continued_nil (history : List String) : continued history [] = history := by
  unfold continued
  cases hlast : history.getLast? with
  | none => rw [List.getLast?_eq_none_iff.mp hlast]; rfl
  | some id => exact List.dropLast_append_getLast? id hlast

/-- The first of the further variants is dropped if the history ends with it. -/
theorem continued_cons (history : List String) (id : String) (shown : List String) :
    continued history (id :: shown)
      = continued (if history.getLast? = some id then history else history ++ [id]) shown := by
  unfold continued
  by_cases hrepeat : history.getLast? = some id
  · rw [if_pos hrepeat, hrepeat]
    exact congrArg _ (List.destutter'_cons_neg _ fun hne => hne rfl)
  · rw [if_neg hrepeat, List.dropLast_concat, List.getLast?_concat]
    cases hlast : history.getLast? with
    | none => rw [List.getLast?_eq_none_iff.mp hlast]; rfl
    | some last =>
        have hne : last ≠ id := fun heq => hrepeat (hlast.trans (congrArg some heq))
        have hkept : (last :: id :: shown).destutter (· ≠ ·)
            = last :: (id :: shown).destutter (· ≠ ·) := List.destutter'_cons_pos _ hne
        calc
          history.dropLast ++ (last :: id :: shown).destutter (· ≠ ·)
              = (history.dropLast ++ [last]) ++ (id :: shown).destutter (· ≠ ·) := by
            rw [hkept, List.append_assoc]; rfl
          _ = history ++ (id :: shown).destutter (· ≠ ·) := by
            rw [List.dropLast_append_getLast? last hlast]

/-- A call that shows nothing in a slot leaves its history alone. -/
theorem Session.attempt_history (s : Session Number) {c : Call Number} {slotId : String}
    (h : c.shown? slotId = none) : (s.attempt c).history slotId = s.history slotId := by
  have haspect : c.aspect ≠ .history slotId := by
    intro haspect
    cases c with
    | setSticky _ _ => exact nomatch haspect
    | update u =>
        cases u with
        | seen slotId' id => exact nomatch (if_pos (Aspect.history.inj haspect)).symm.trans h
        | _ => exact nomatch haspect
  exact congrArg (fun x : Option (List String) => x.getD [])
    (separated_attempt.other s c haspect)

/-- A shown variant comes to the end of its slot's history, except when it is there already. -/
theorem Session.attempt_history_shown (s : Session Number) {c : Call Number} {slotId id : String}
    (h : c.shown? slotId = some id) :
    (s.attempt c).history slotId
      = if (s.history slotId).getLast? = some id then s.history slotId
        else s.history slotId ++ [id] := by
  unfold Call.shown? at h
  split at h
  · next slotId' id' =>
      split at h
      · next hslot =>
          cases h
          subst hslot
          show ((s.seenVariants.insert slotId' _).get? slotId').getD [] = _
          rw [Keyed.get?_insert, if_pos rfl]
          rfl
      · exact nomatch h
  · exact nomatch h

/-- **A history goes on with what its slot shows**, immediate repeats apart. -/
theorem Session.foldl_attempt_history (s : Session Number) (calls : List (Call Number))
    (slotId : String) :
    (calls.foldl attempt s).history slotId
      = continued (s.history slotId) (calls.filterMap (·.shown? slotId)) := by
  induction calls generalizing s with
  | nil => exact (continued_nil _).symm
  | cons c calls ih =>
      rw [List.foldl_cons, ih]
      cases hshown : c.shown? slotId with
      | none => rw [List.filterMap_cons_none hshown, s.attempt_history hshown]
      | some id =>
          rw [List.filterMap_cons_some hshown, continued_cons, s.attempt_history_shown hshown]

/-! ## The theorem -/

/-- **Calls on different aspects of a session commute.**  Two runs of calls, each on a draft that is
    a session at first, end in sessions again, whether their calls succeed or not.  If the runs have
    the same calls for each aspect, in the same order, then these sessions are equal but for the
    order of the entries in their maps.  What is no aspect, and an aspect that no call concerns, is
    unchanged.  Each slot's history goes on with the variants that the slot shows, of which every
    immediate repeat is dropped. -/
theorem calls_commute (s : Session Number) {calls calls' : List (Call Number)}
    (h : ∀ p, calls.filter (·.aspect = p) = calls'.filter (·.aspect = p)) :
    ∃ t t', calls.foldl Draft.after ⟨s, []⟩ = ⟨t, []⟩ ∧
      calls'.foldl Draft.after ⟨s, []⟩ = ⟨t', []⟩ ∧
      t.SameUpToOrder t' ∧
      s.SameElsewhere t ∧
      (∀ p, (∀ c ∈ calls, c.aspect ≠ p) → t.content p = s.content p) ∧
      ∀ slotId, t.history slotId
        = continued (s.history slotId) (calls.filterMap (·.shown? slotId)) := by
  refine ⟨calls.foldl Session.attempt s, calls'.foldl Session.attempt s, Draft.foldl_after s calls,
    Draft.foldl_after s calls', separated_attempt.sameUpToOrder s h,
    separated_attempt.sameElsewhere s calls, fun p hp => ?_, s.foldl_attempt_history calls⟩
  exact separated_attempt.content_unconcerned hp s

/-- A slot shows `a` twice and then `b`, while another slot shows `a` and the learner idles.  In
    either order of these calls its history goes on from `a` with `b` alone. -/
theorem calls_commute_repeats :
    let s : Session Number := { metrics := .initial, seenVariants := [("s", ["b", "a"])] }
    let shown (slotId id : String) : Call Number := .update (.seen slotId id)
    let idle : Call Number := .update (.idle (.int 5))
    let calls := [shown "s" "a", idle, shown "t" "a", shown "s" "a", shown "s" "b"]
    let calls' := [shown "t" "a", shown "s" "a", shown "s" "a", shown "s" "b", idle]
    (∀ p, calls.filter (·.aspect = p) = calls'.filter (·.aspect = p)) ∧
      ∃ t t', calls.foldl Draft.after ⟨s, []⟩ = ⟨t, []⟩ ∧
        calls'.foldl Draft.after ⟨s, []⟩ = ⟨t', []⟩ ∧ t.SameUpToOrder t' ∧
        t.history "s" = ["b", "a", "b"] ∧ t.history "t" = ["a"] ∧ t.trace = [] := by
  intro s shown idle calls calls'
  have hcalls : ∀ p, calls.filter (·.aspect = p) = calls'.filter (·.aspect = p) := by
    intro p
    cases p with
    | history slotId =>
        by_cases hs : "s" = slotId
        · subst hs
          rfl
        · by_cases ht : "t" = slotId
          · subst ht
            rfl
          · simp [calls, calls', shown, idle, Call.aspect, Update.aspect, hs, ht]
    | _ => rfl
  obtain ⟨t, t', ht, ht', hsame, -, hunchanged, hhistory⟩ := calls_commute s hcalls
  refine ⟨hcalls, t, t', ht, ht', hsame, hhistory "s", hhistory "t", ?_⟩
  exact hunchanged .trace (by decide)

end LessonVariants
