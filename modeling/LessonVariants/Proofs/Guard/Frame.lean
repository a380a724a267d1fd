import LessonVariants.Proofs.Guard.Dependence
import LessonVariants.Proofs.Guard.Verdict

/-! # Guards that overlook what a session remembers

    A path that starts at the session and goes on to another field than `sticky` leads to the same
    value and the same place whatever the session remembers.  So a guard text all of whose paths
    from the session go on to other fields (`OverlooksSticky`) has one answer for all sessions that
    differ in what they remember only (`OverlooksSticky.answer_eq`). -/

namespace LessonVariants

variable {ρ : Type}

/-- Guard text whose paths from the session all go on, and to another field than `sticky`. -/
def OverlooksSticky (source : String) : Prop :=
  ∀ e, Denotes source e → ∀ ss, (Root.session, ss) ∈ e.paths →
    ∃ first rest, ss = first :: rest ∧ first ≠ .key "sticky"

/-- A search passes over an item that it does not look for. -/
theorem find?_middle {α : Type} {p : α → Bool} {before after : List α} {a : α} (h : p a = false) :
    (before ++ a :: after).find? p = (before ++ after).find? p := by
  rw [List.find?_append, List.find?_append, List.find?_cons_of_neg (Bool.eq_false_iff.mp h)]

variable [Scalar ρ]

/-! ## One step from the session -/

/-- A step that does not ask for the remembered choices is found among the other fields. -/
theorem Session.find?_withSticky {s : Session ρ} {name : String} (h : name ≠ "sticky") :
    ∃ others : List (FieldName × Value ρ), ∀ t, ∃ fields,
      ({ s with sticky := t } : Session ρ).view = .record "SessionState" fields ∧
      (fields.find? fun f => f.1.answersTo name) = others.find? fun f => f.1.answersTo name := by
  have hname : FieldName.answersTo ⟨"sticky", "sticky"⟩ name = false := by
    rw [FieldName.answersTo, Bool.or_self]
    exact beq_eq_false_iff_ne.mpr h.symm
  let before : List (FieldName × Value ρ) := [
    (⟨"ids", "ids"⟩, s.ids.view),
    (⟨"user", "user"⟩, s.user.view),
    (⟨"env", "env"⟩, s.env.view),
    (⟨"metrics", "metrics"⟩, s.metrics.view),
    (⟨"perSkill", "per_skill"⟩, .ofKeyed SkillStats.view s.perSkill)]
  let after : List (FieldName × Value ρ) := [
    (⟨"overrides", "overrides"⟩, .ofOption Overrides.view s.overrides),
    (⟨"seenVariants", "seen_variants"⟩, .ofKeyed Value.ofTexts s.seenVariants),
    (⟨"policy", "policy"⟩, s.policy.view),
    (⟨"trace", "trace"⟩, .ofList TraceEvent.view s.trace)]
  exact ⟨before ++ after, fun t =>
    ⟨before ++ (⟨"sticky", "sticky"⟩, .ofKeyed StickyEntry.view t) :: after, rfl,
      find?_middle hname⟩⟩

variable {s : Session ρ} {key : Value ρ}

/-- A step that does not ask for the remembered choices leads to the same whatever they are. -/
theorem Session.member_withSticky (t : Keyed (StickyEntry ρ)) (walked : Walked ρ)
    (h : key ≠ .text "sticky") :
    ({ s with sticky := t } : Session ρ).view.member walked key = s.view.member walked key := by
  cases key with
  | text name =>
      obtain ⟨others, hothers⟩ := s.find?_withSticky fun hname => h (congrArg Value.text hname)
      obtain ⟨fields, hview, hfind⟩ := hothers t
      obtain ⟨fields', hview', hfind'⟩ := hothers s.sticky
      rw [hview, show s.view = .record "SessionState" fields' from hview']
      simp only [Value.member, hfind, hfind']
  | _ => rfl

theorem Session.landing?_withSticky (t : Keyed (StickyEntry ρ)) (h : key ≠ .text "sticky") :
    ({ s with sticky := t } : Session ρ).view.landing? key = s.view.landing? key := by
  cases key with
  | text name =>
      obtain ⟨others, hothers⟩ := s.find?_withSticky fun hname => h (congrArg Value.text hname)
      obtain ⟨fields, hview, hfind⟩ := hothers t
      obtain ⟨fields', hview', hfind'⟩ := hothers s.sticky
      rw [hview, show s.view = .record "SessionState" fields' from hview']
      simp only [Value.landing?, hfind, hfind']
  | _ => rfl

/-! ## Whole paths, and guards -/

/-- A path that goes on from the session to another field than `sticky` comes to the same whatever
    the session remembers. -/
theorem pathAlike_withSticky {first : Segment} (t : Keyed (StickyEntry ρ)) (rest : List Segment)
    (h : first ≠ .key "sticky") (slotId : String) (v : Variant ρ) :
    PathAlike Eq (Activation.mk s slotId v).scope
      (Activation.mk { s with sticky := t } slotId v).scope (.session, first :: rest) := by
  have hkey : (first.toValue : Value ρ) ≠ .text "sticky" := by
    cases first with
    | key name => exact fun hname => h (congrArg Segment.key (Value.text.inj hname))
    | index n => exact fun hname => nomatch hname
  constructor
  · refine .of_eq ?_
    show Value.follow s.view _ (first.toValue :: _)
      = Value.follow (Session.view _) _ (first.toValue :: _)
    rw [Value.follow, Value.follow, Session.member_withSticky t _ hkey]
  · show Value.place? s.view (first.toValue :: _)
      = Value.place? (Session.view _) (first.toValue :: _)
    rw [Value.place?, Value.place?, Session.member_withSticky t _ hkey,
      Session.landing?_withSticky t hkey]

/-- **A guard that overlooks what the session remembers** has one answer whatever that is. -/
theorem OverlooksSticky.answer_eq {source : String} (h : OverlooksSticky source)
    {calls : Nat → String → Prop} {cache : GuardCache} (hcache : cache.Reachable calls) (room : Room)
    (t : Keyed (StickyEntry ρ)) (slotId : String) (v : Variant ρ) :
    cache.answer room (some (.text source)) ⟨{ s with sticky := t }, slotId, v⟩
      = cache.answer room (some (.text source)) ⟨s, slotId, v⟩ := by
  rw [GuardCache.answer_text, GuardCache.answer_text]
  refine (GuardCache.textVerdict_congr .eq fun e hread p hp => ?_).symm
  obtain ⟨root, ss⟩ := p
  cases root with
  | session =>
      obtain ⟨first, rest, rfl, hfirst⟩ := h e (hcache.denotes hread) ss hp
      exact pathAlike_withSticky t rest hfirst slotId v
  | slotId => exact ⟨.of_eq rfl, rfl⟩
  | variant => exact ⟨.of_eq rfl, rfl⟩

end LessonVariants
