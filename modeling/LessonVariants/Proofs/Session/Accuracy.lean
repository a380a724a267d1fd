import LessonVariants.Proofs.Session.Attempts
import LessonVariants.Proofs.Session.Smoothing
import Mathlib.Data.List.DropRight
import Mathlib.Tactic.NormNum

/-! # Accuracy in closed form

    Answers change the accuracy, the streak and the number of answers, and no other call does.  So what
    calls make of them is what the answers among them make of them, one after the other
    (`Session.metrics_answers`), and the same holds of the stats of a skill
    (`Session.skill_answers`).  In exact arithmetic either accuracy is a weighted mean of its start and
    the outcomes, and lies between them all the way (`accuracy_follows_closed_form`). -/

namespace LessonVariants

/-! ## Streaks -/

/-- The streak after answers: how many of them are correct since the last wrong one, and the streak
    before if none was wrong. -/
theorem foldl_streak (start : Int) (outcomes : List Bool) :
    outcomes.foldl (fun streak correct => if correct then streak + 1 else 0) start
      = (outcomes.rtakeWhile id).length + if false ∈ outcomes then 0 else start := by
  induction outcomes using List.reverseRecOn with
  | nil => exact (Int.zero_add start).symm
  | append_singleton outcomes correct ih =>
      rw [List.foldl_concat, ih]
      cases correct with
      | false =>
          have hwrong : false ∈ outcomes ++ [false] := List.mem_append_right _ List.mem_cons_self
          rw [List.rtakeWhile_concat_neg id _ _ Bool.false_ne_true, if_pos hwrong]
          rfl
      | true =>
          have hwrong : false ∈ outcomes ++ [true] ↔ false ∈ outcomes := by simp
          simp only [List.rtakeWhile_concat_pos id outcomes true rfl, hwrong, List.length_append,
            List.length_singleton, Nat.cast_add, Nat.cast_one, if_true]
          exact Int.add_right_comm _ _ _

/-! ## Answers one after the other -/

section

variable {ρ : Type} [Scalar ρ]

/-- Metrics after answers. -/
theorem Metrics.foldl_answered (m : Metrics ρ) (alpha : ρ) (outcomes : List Bool) :
    outcomes.foldl (fun m correct => m.answered alpha correct) m =
      { m with
        accuracy := (outcomes.map outcome).foldl (blend alpha) m.accuracy
        streak   := outcomes.foldl (fun streak correct => if correct then streak + 1 else 0) m.streak
        attempts := m.attempts + outcomes.length } := by
  induction outcomes generalizing m with
  | nil => simp
  | cons correct outcomes ih =>
      rw [List.foldl_cons, ih, List.length_cons, Nat.cast_add, Nat.cast_one, Int.add_comm _ 1,
        ← Int.add_assoc]
      rfl

/-- Stats of a skill after answers that concern it, each at its time. -/
theorem SkillStats.foldl_answered (stats : SkillStats ρ) (alpha : ρ) (answers : List (Bool × ρ)) :
    let after := answers.foldl (fun stats a => stats.answered alpha a.1 a.2) stats
    after.accuracy = (answers.map fun a => outcome a.1).foldl (blend alpha) stats.accuracy ∧
      after.attempts = stats.attempts + answers.length := by
  induction answers generalizing stats with
  | nil => exact ⟨rfl, (Int.add_zero _).symm⟩
  | cons a answers ih =>
      obtain ⟨haccuracy, hattempts⟩ := ih (stats.answered alpha a.1 a.2)
      refine ⟨haccuracy, hattempts.trans ?_⟩
      rw [List.length_cons, Nat.cast_add, Nat.cast_one, Int.add_comm _ 1, ← Int.add_assoc]
      rfl

/-! ## Answers among other calls -/

/-- **The metrics see the answers among the calls.**  Accuracy, streak and number of answers are those
    after the answers alone. -/
theorem Session.metrics_answers (s : Session ρ) {alpha : ρ} {calls : List (Call ρ)}
    {outcomes : List Bool} (h : calls.filter (·.aspect = .accuracy)
      = outcomes.map fun correct => .update (.answer alpha correct)) :
    (calls.foldl after s).metrics.accuracy
        = (outcomes.map outcome).foldl (blend alpha) s.metrics.accuracy ∧
      (calls.foldl after s).metrics.streak
        = (outcomes.rtakeWhile id).length + (if false ∈ outcomes then 0 else s.metrics.streak) ∧
      (calls.foldl after s).metrics.attempts = s.metrics.attempts + outcomes.length := by
  have hown : outcomes.foldl (fun s correct => s.recordAnswer alpha correct) s
      = { s with metrics := outcomes.foldl (fun m correct => m.answered alpha correct) s.metrics } :=
    List.foldl_hom (fun m => { s with metrics := m }) fun _ _ => rfl
  have hcontent := (separated_after.content_map h s).trans
    (congrArg (fun t => t.content .accuracy) hown)
  rw [Metrics.foldl_answered] at hcontent
  rw [← foldl_streak]
  exact ⟨congrArg (fun x : ρ × Int × Int => x.1) hcontent,
    congrArg (fun x : ρ × Int × Int => x.2.1) hcontent,
    congrArg (fun x : ρ × Int × Int => x.2.2) hcontent⟩

/-- The entry of a skill after an answer that concerns it. -/
theorem Session.perSkill_recordSkillAnswer (s : Session ρ) (id : String) (alpha : ρ)
    (correct : Bool) (now : ρ) :
    (s.recordSkillAnswer id alpha correct now).perSkill.get? id
      = some ((s.skill id).answered alpha correct now) := by
  rw [recordSkillAnswer, Keyed.get?_insert, if_pos rfl]

/-- **A skill sees the answers that concern it.**  Its stats are those after these answers alone, and
    the session has an entry for it as soon as there is one. -/
theorem Session.skill_answers (s : Session ρ) {id : String} {alpha : ρ} {calls : List (Call ρ)}
    {answers : List (Bool × ρ)} (h : calls.filter (·.aspect = .skill id)
      = answers.map fun a => .update (.skillAnswer id alpha a.1 a.2)) :
    (calls.foldl after s).skill id
        = answers.foldl (fun stats a => stats.answered alpha a.1 a.2) (s.skill id) ∧
      (answers ≠ [] →
        (calls.foldl after s).perSkill.get? id = some ((calls.foldl after s).skill id)) := by
  -- the session after the answers that concern the skill, alone
  generalize hown : answers.foldl (fun s a => s.recordSkillAnswer id alpha a.1 a.2) s = own
  have hentry : (calls.foldl after s).perSkill.get? id = own.perSkill.get? id :=
    (separated_after.content_map h s).trans (congrArg (fun t => t.perSkill.get? id) hown)
  have hskill : (calls.foldl after s).skill id = own.skill id :=
    congrArg (fun stats => stats.getD .initial) hentry
  rw [hskill, hentry, ← hown]
  constructor
  · refine (List.foldl_hom (fun s : Session ρ => s.skill id) fun s a => ?_).symm
    rw [skill, skill, perSkill_recordSkillAnswer]
    rfl
  · intro hne
    obtain ⟨before, last, rfl⟩ := (List.eq_nil_or_concat answers).resolve_left hne
    rw [List.concat_eq_append, List.foldl_concat, skill, perSkill_recordSkillAnswer]
    rfl

end

/-! ## The theorem -/

section

variable {α : Type} (alpha start : Rat) (correct : α → Bool) (answers : List α)

/-- An accuracy after answers is the weighted mean of its start and the outcomes. -/
theorem foldl_blend_outcomes :
    (answers.map fun a => outcome (correct a)).foldl (blend alpha) start
      = weightedMean alpha start (answers.map fun a => if correct a then 1 else 0) := by
  rw [foldl_blend_eq]
  exact congrArg _ (List.map_congr_left fun a _ => outcome_rat (correct a))

variable {alpha}

/-- An accuracy after answers lies between its start and the outcomes. -/
theorem foldl_blend_outcomes_mem (h₀ : 0 ≤ alpha) (h₁ : alpha ≤ 1) :
    (answers.map fun a => outcome (correct a)).foldl (blend alpha) start
      ∈ Set.Icc (min start 0) (max start 1) := by
  refine foldl_blend_mem h₀ h₁ ⟨min_le_left _ _, le_max_left _ _⟩ fun x hx => ?_
  obtain ⟨a, -, rfl⟩ := List.mem_map.mp hx
  rw [outcome_rat]
  split
  · exact ⟨le_trans (min_le_right _ _) zero_le_one, le_max_right _ _⟩
  · exact ⟨min_le_right _ _, le_trans zero_le_one (le_max_right _ _)⟩

end

/-- **Accuracy follows its closed form.**  In exact arithmetic, answers of one weight that come among any
    other calls make the accuracy the weighted mean of its start and their outcomes, and it lies between
    its start and the outcomes at every moment.  The number of answers grows by theirs, and the streak is
    the number of correct ones since the last wrong one, with the streak before if none was wrong.

    So it is for the answers that concern a skill, whatever comes between them.  A skill that was never
    tried starts from an accuracy of one and no answers, and has an entry from its first answer on. -/
theorem accuracy_follows_closed_form (s : Session Rat) {alpha : Rat} (h₀ : 0 ≤ alpha)
    (h₁ : alpha ≤ 1) (calls : List (Call Rat)) :
    (∀ outcomes : List Bool,
      calls.filter (·.aspect = .accuracy)
        = outcomes.map (fun correct => .update (.answer alpha correct)) →
      let start := s.metrics
      let metrics := (calls.foldl Session.after s).metrics
      metrics.accuracy = weightedMean alpha start.accuracy
          (outcomes.map fun correct => if correct then 1 else 0) ∧
        metrics.attempts = start.attempts + outcomes.length ∧
        metrics.streak = (outcomes.rtakeWhile id).length
          + (if false ∈ outcomes then 0 else start.streak) ∧
        ∀ before, before <+: calls → (before.foldl Session.after s).metrics.accuracy
          ∈ Set.Icc (min start.accuracy 0) (max start.accuracy 1)) ∧
    ∀ (id : String) (answers : List (Bool × Rat)),
      calls.filter (·.aspect = .skill id)
        = answers.map (fun a => .update (.skillAnswer id alpha a.1 a.2)) →
      let start := s.skill id
      let stats := (calls.foldl Session.after s).skill id
      (∀ stored, s.perSkill.get? id = some stored → start = stored) ∧
        (s.perSkill.get? id = none → start.accuracy = 1 ∧ start.attempts = 0) ∧
        stats.accuracy = weightedMean alpha start.accuracy
          (answers.map fun a => if a.1 then 1 else 0) ∧
        stats.attempts = start.attempts + answers.length ∧
        (answers ≠ [] → (calls.foldl Session.after s).perSkill.get? id = some stats) ∧
        ∀ before, before <+: calls → ((before.foldl Session.after s).skill id).accuracy
          ∈ Set.Icc (min start.accuracy 0) (max start.accuracy 1) := by
  constructor
  · intro outcomes hcalls start metrics
    obtain ⟨haccuracy, hstreak, hattempts⟩ := s.metrics_answers hcalls
    refine ⟨haccuracy.trans (foldl_blend_outcomes _ _ id outcomes), hattempts, hstreak, ?_⟩
    intro before hbefore
    -- a part of the run has a part of the answers
    have hpart := hbefore.filter (·.aspect = .accuracy)
    rw [hcalls, List.prefix_map_iff] at hpart
    obtain ⟨part, -, hpart⟩ := hpart
    rw [(s.metrics_answers hpart).1]
    exact foldl_blend_outcomes_mem _ id part h₀ h₁
  · intro id answers hcalls start stats
    obtain ⟨hstats, hkept⟩ := s.skill_answers hcalls
    obtain ⟨haccuracy, hattempts⟩ := start.foldl_answered alpha answers
    rw [← hstats] at haccuracy hattempts
    refine ⟨?_, ?_, haccuracy.trans (foldl_blend_outcomes _ _ Prod.fst answers), hattempts, hkept, ?_⟩
    · intro stored hstored
      show (s.perSkill.get? id).getD .initial = stored
      rw [hstored]
      rfl
    · intro hnew
      have hinitial : start = .initial := congrArg (fun stats => stats.getD .initial) hnew
      rw [hinitial]
      exact ⟨rfl, rfl⟩
    · intro before hbefore
      have hpart := hbefore.filter (·.aspect = .skill id)
      rw [hcalls, List.prefix_map_iff] at hpart
      obtain ⟨part, -, hpart⟩ := hpart
      rw [(s.skill_answers hpart).1, (start.foldl_answered alpha part).1]
      exact foldl_blend_outcomes_mem _ Prod.fst part h₀ h₁

/-- Answers on the lesson and on two skills take turns, with weight one half.  The streak of four ends with
    the second answer and is two at the end; the first skill goes on from its stats, and the other one
    from an accuracy of one. -/
theorem accuracy_follows_closed_form_interleaved :
    let stored : SkillStats Rat := { accuracy := 1 / 2, attempts := 3, lastTs := 0 }
    let s : Session Rat :=
      { metrics := { Metrics.initial with accuracy := 1 / 2, streak := 4 }
        perSkill := [("k", stored)] }
    let answer (correct : Bool) : Call Rat := .update (.answer (1 / 2) correct)
    let practise (id : String) (correct : Bool) (now : Rat) : Call Rat :=
      .update (.skillAnswer id (1 / 2) correct now)
    let calls := [answer true, practise "k" false 1, .update (.idle 5), answer false,
      practise "l" true 2, answer true, practise "k" true 3, answer true]
    let t := calls.foldl Session.after s
    calls.filter (·.aspect = .accuracy) = [true, false, true, true].map answer ∧
      t.metrics.accuracy = 27 / 32 ∧ t.metrics.attempts = 4 ∧ t.metrics.streak = 2 ∧
      calls.filter (·.aspect = .skill "k") = [practise "k" false 1, practise "k" true 3] ∧
      (t.skill "k").accuracy = 5 / 8 ∧ (t.skill "k").attempts = 5 ∧
      calls.filter (·.aspect = .skill "l") = [practise "l" true 2] ∧
      (t.skill "l").accuracy = 1 ∧ t.perSkill.get? "l" = some (t.skill "l") := by
  intro stored s answer practise calls t
  have h₀ : (0 : Rat) ≤ 1 / 2 := by norm_num
  have h₁ : (1 / 2 : Rat) ≤ 1 := by norm_num
  obtain ⟨hmetrics, hskill⟩ := accuracy_follows_closed_form s h₀ h₁ calls
  obtain ⟨haccuracy, hattempts, hstreak, -⟩ := hmetrics [true, false, true, true] rfl
  obtain ⟨hk, -, hkAccuracy, hkAttempts, -⟩ := hskill "k" [(false, 1), (true, 3)] rfl
  obtain ⟨-, hl, hlAccuracy, -, hlKept, -⟩ := hskill "l" [(true, 2)] rfl
  rw [hk stored rfl] at hkAccuracy hkAttempts
  rw [(hl rfl).1] at hlAccuracy
  refine ⟨rfl, haccuracy.trans ?_, hattempts, hstreak, rfl, hkAccuracy.trans ?_, hkAttempts, rfl,
    hlAccuracy.trans ?_, hlKept (List.cons_ne_nil _ _)⟩
  · simp only [List.map, weightedMean_cons, weightedMean_nil, blend_rat, s]
    norm_num
  · simp only [List.map, weightedMean_cons, weightedMean_nil, blend_rat, stored]
    norm_num
  · simp only [List.map, weightedMean_cons, weightedMean_nil, blend_rat]
    norm_num

end LessonVariants
