import LessonVariants.Proofs.Guard.Frame
import LessonVariants.Proofs.Keyed
import LessonVariants.Proofs.Selection.Agreement

/-! # Selections that run side by side

    Two selections share a session and a guard cache, and take turns: each decides, and later
    commits what it has decided.  A schedule lists the turns (`Interleaves`).

    The only thing that one of them changes in the session is the record of its own slot.  The other
    does not read it, if its slot has another id, its guards overlook what the session remembers and
    its policy does not look at the session (`Request.Secluded`).  So every schedule comes to the
    same: each selection has the outcome that it has alone, and the session takes the records of
    both (`selections_do_not_interfere`).  The schedule shows in nothing but the order of the
    records.

    The invariant of a run (`Underway`) says how far each side has come, and that the session is the
    first one with the writes of those sides that are through. -/

namespace LessonVariants

variable {ρ : Type}

/-! ## Sessions that differ in what they remember -/

/-- Sessions that differ in nothing but the order of what they remember. -/
structure Session.Reordered (s s' : Session ρ) : Prop where
  rest   : { s with sticky := [] } = { s' with sticky := [] }
  sticky : s.sticky.Perm s'.sticky

theorem Session.Reordered.refl (s : Session ρ) : s.Reordered s :=
  ⟨rfl, .refl _⟩

/-- A session that differs from another in what it remembers only, and remembers the same for a
    slot. -/
structure Session.SameFor (slotId : String) (s s' : Session ρ) : Prop where
  rest   : s' = { s with sticky := s'.sticky }
  sticky : s'.sticky.get? slotId = s.sticky.get? slotId

theorem Session.SameFor.refl (slotId : String) (s : Session ρ) : s.SameFor slotId s :=
  ⟨rfl, rfl⟩

theorem Session.SameFor.putSticky {slotId slotId' : String} {s s' : Session ρ}
    (h : s.SameFor slotId s') (hne : slotId ≠ slotId') (e : StickyEntry ρ) :
    s.SameFor slotId (s'.putSticky slotId' e) := by
  refine ⟨?_, ?_⟩
  · rw [h.rest]
    rfl
  · show (s'.sticky.insert slotId' e).get? slotId = _
    rw [Keyed.get?_insert, if_neg hne, h.sticky]

variable [WireScalar ρ]

/-! ## Selections, step by step -/

/-- A selection that is asked for. -/
structure Request (ρ : Type) where
  slot   : Slot ρ
  policy : Policy ρ
  trace  : Bool
  now    : ρ

/-- What committing the outcome of a decision comes to: the outcome of the selection, and the
    session with the record of the choice.  An error leaves the session alone. -/
def conclude (outcome : Except (SelectionError ρ) (Decision ρ)) (now : ρ) (session : Session ρ) :
    Except (SelectionError ρ) (SelectionResult ρ) × Session ρ :=
  match outcome with
  | .error e => (.error e, session)
  | .ok d    =>
      match d.intent with
      | none   => (.ok d.result, session)
      | some i =>
          match session.commit i now with
          | .ok s      => (.ok d.result, s)
          | .faulty is => (.error (.record is), session)

namespace Request

/-- Decides on the slot. -/
def decide (r : Request ρ) (room : Room) (settings : Settings ρ) (session : Session ρ)
    (cache : GuardCache) : Except (SelectionError ρ) (Decision ρ) × GuardCache :=
  LessonVariants.decide settings (GuardCache.judge room) r.slot session r.policy r.trace r.now cache

/-- Selects.  An error leaves the session alone. -/
def select (r : Request ρ) (room : Room) (settings : Settings ρ) (session : Session ρ)
    (cache : GuardCache) :
    Except (SelectionError ρ) (SelectionResult ρ) × Session ρ × GuardCache :=
  match LessonVariants.select settings (GuardCache.judge room) r.slot session r.policy r.trace r.now
      cache with
  | (.ok (result, s), cache) => (.ok result, s, cache)
  | (.error e, cache)        => (.error e, session, cache)

/-- A selection that does not look at what the session remembers for other slots: its guards are
    texts that overlook the remembered choices, and its policy does not look at the session. -/
structure Secluded (r : Request ρ) : Prop where
  guards  : ∀ v ∈ r.slot.variants, ∀ g, v.guard = some g →
    ∃ source, g = .text source ∧ OverlooksSticky source
  verdict : ∀ s s', r.policy.verdict r.slot s = r.policy.verdict r.slot s'

variable {r : Request ρ} {room : Room} {settings : Settings ρ} {session s s' : Session ρ}
  {cache cache' : GuardCache}

/-- A selection decides, and commits what it has decided. -/
theorem select_eq : r.select room settings session cache =
    ((conclude (r.decide room settings session cache).1 r.now session).1,
      (conclude (r.decide room settings session cache).1 r.now session).2,
      (r.decide room settings session cache).2) := by
  unfold select decide LessonVariants.select conclude
  cases LessonVariants.decide settings (GuardCache.judge room) r.slot session r.policy r.trace r.now
      cache with
  | mk outcome cache' =>
      cases outcome with
      | error e => rfl
      | ok d =>
          dsimp only
          cases d.intent with
          | none => rfl
          | some i =>
              dsimp only
              cases session.commit i r.now <;> rfl

/-- **What a selection changes**: nothing, or the record of its slot.  Its outcome does not depend
    on the session in which the decision is committed. -/
theorem conclude_cases (r : Request ρ) (room : Room) (settings : Settings ρ) (session : Session ρ)
    (cache : GuardCache) :
    ∃ result, (∀ s, conclude (r.decide room settings session cache).1 r.now s = (result, s)) ∨
      ∃ record : StickyRecord ρ, ∀ s, conclude (r.decide room settings session cache).1 r.now s
        = (result, s.putSticky r.slot.id (.record record)) := by
  cases hdecide : (r.decide room settings session cache).1 with
  | error e => exact ⟨.error e, Or.inl fun s => rfl⟩
  | ok d =>
      rcases decide_eq_ok (Prod.ext hdecide rfl) with ⟨hintent, -⟩ | ⟨i, hintent, hslot, -⟩
      · refine ⟨.ok d.result, Or.inl fun s => ?_⟩
        simp only [conclude, hintent]
      · cases hrecord : i.record r.now with
        | ok record =>
            refine ⟨.ok d.result, Or.inr ⟨record, fun s => ?_⟩⟩
            simp only [conclude, hintent, Session.commit, hrecord, Checked.map, hslot]
        | faulty is =>
            refine ⟨.error (.record is), Or.inl fun s => ?_⟩
            simp only [conclude, hintent, Session.commit, hrecord, Checked.map]

/-- A selection changes nothing in what the cache reads. -/
theorem decide_reading (r : Request ρ) (room : Room) (settings : Settings ρ) (session : Session ρ)
    (cache : GuardCache) :
    (r.decide room settings session cache).2.reading room.parsing = cache.reading room.parsing :=
  cache.decide_reading room settings r.slot session r.policy r.trace r.now

/-- A secluded selection decides alike for sessions that remember the same for its slot, and for
    caches that read the same. -/
theorem Secluded.decide_eq (h : r.Secluded) {calls : Nat → String → Prop}
    (hcache : cache.Reachable calls) (hs : s.SameFor r.slot.id s')
    (hreading : cache'.reading room.parsing = cache.reading room.parsing) :
    (r.decide room settings s' cache').1 = (r.decide room settings s cache).1 := by
  obtain ⟨hrest, hsticky⟩ := hs
  have hagree : Interchangeable room settings r.slot r.policy r.now s s' cache cache' := by
    refine ⟨h.verdict s' s, ?_, ?_, fun v => ?_, fun v => ?_, fun v hv => ?_⟩
    · exact Session.override?_congr (by rw [hrest]) settings r.slot.id r.now
    · rw [Session.stickyRecord?, Session.stickyRecord?, hsticky]
    · rw [hrest]
      rfl
    · rw [hrest]
      rfl
    · rw [GuardCache.answer_congr fun source _ => congrFun hreading source]
      cases hguard : v.guard with
      | none => rfl
      | some g =>
          obtain ⟨source, rfl, hoverlooks⟩ := h.guards v hv g hguard
          rw [hrest]
          exact hoverlooks.answer_eq hcache room s'.sticky r.slot.id v
  exact hagree.decide_eq r.trace

end Request

/-! ## Taking turns -/

/-- The two selections. -/
inductive Side where
  | left | right
  deriving DecidableEq

/-- The side across. -/
def Side.other : Side → Side
  | left  => right
  | right => left

/-- What a selection does in a turn. -/
inductive Act where
  | decide | commit
  deriving DecidableEq

/-- A turn of one of the two selections. -/
structure Turn where
  side : Side
  act  : Act
  deriving DecidableEq

/-- What one side does in a schedule, in order. -/
def actsOf (w : Side) (turns : List Turn) : List Act :=
  (turns.filter (·.side = w)).map (·.act)

/-- The schedules in which each side decides and later commits. -/
def Interleaves (schedule : List Turn) : Prop :=
  ∀ w, actsOf w schedule = [.decide, .commit]

/-- How far a selection has come. -/
inductive Progress (ρ : Type) where
  | asked
  | decided (outcome : Except (SelectionError ρ) (Decision ρ))
  | done (outcome : Except (SelectionError ρ) (SelectionResult ρ))

/-- What the two selections share, and how far each has come. -/
structure Shared (ρ : Type) where
  session  : Session ρ
  cache    : GuardCache
  progress : Side → Progress ρ

namespace Shared

/-- Notes how far a side has come. -/
def note (m : Shared ρ) (w : Side) (p : Progress ρ) : Shared ρ :=
  { m with progress := fun v => if v = w then p else m.progress v }

/-- One turn.  A selection commits what it has decided, and nothing before. -/
def turn (room : Room) (settings : Settings ρ) (requests : Side → Request ρ) (m : Shared ρ)
    (t : Turn) : Shared ρ :=
  match t.act with
  | .decide =>
      let (outcome, cache) := (requests t.side).decide room settings m.session m.cache
      { m with cache := cache }.note t.side (.decided outcome)
  | .commit =>
      match m.progress t.side with
      | .decided outcome =>
          let (result, session) := conclude outcome (requests t.side).now m.session
          { m with session := session }.note t.side (.done result)
      | _ => m

/-- A whole schedule. -/
def run (room : Room) (settings : Settings ρ) (requests : Side → Request ρ) (m : Shared ρ)
    (schedule : List Turn) : Shared ρ :=
  schedule.foldl (turn room settings requests) m

/-- Both selections are asked for. -/
def start (session : Session ρ) (cache : GuardCache) : Shared ρ :=
  ⟨session, cache, fun _ => .asked⟩

end Shared

/-! ## The invariant of a run -/

section Run

variable (room : Room) (settings : Settings ρ) (requests : Side → Request ρ) (session : Session ρ)
  (cache : GuardCache)

/-- What a side decides on the first session. -/
def ownDecision (w : Side) : Except (SelectionError ρ) (Decision ρ) :=
  ((requests w).decide room settings session cache).1

/-- What a side changes in a session. -/
def ownWrite (w : Side) (s : Session ρ) : Session ρ :=
  (conclude (ownDecision room settings requests session cache w) (requests w).now s).2

/-- How far a side has come, and what it has yet to do. -/
inductive Stage (w : Side) : Progress ρ → List Act → Prop where
  | asked : Stage w .asked [.decide, .commit]
  | decided : Stage w (.decided (ownDecision room settings requests session cache w)) [.commit]
  | done : Stage w (.done ((requests w).select room settings session cache).1) []

/-- The state of a run before the given turns: each side has come as far as the turns leave it, and
    the session is the first one with the writes of the sides that are through, in some order. -/
structure Underway (m : Shared ρ) (turns : List Turn) : Prop where
  reading : m.cache.reading room.parsing = cache.reading room.parsing
  stage   : ∀ w, Stage room settings requests session cache w (m.progress w) (actsOf w turns)
  written : ∃ order : List Side, order.Nodup ∧ (∀ w, w ∈ order ↔ actsOf w turns = []) ∧
    m.session = order.foldl (fun s w => ownWrite room settings requests session cache w s) session

end Run

variable {room : Room} {settings : Settings ρ} {requests : Side → Request ρ} {session : Session ρ}
  {cache : GuardCache} {m : Shared ρ} {turns : List Turn} {calls : Nat → String → Prop}

theorem Side.other_ne (w : Side) : w.other ≠ w := by
  cases w <;> decide

theorem Side.eq_or_other (v w : Side) : v = w ∨ v = w.other := by
  cases v <;> cases w <;> decide

theorem actsOf_self (t : Turn) : actsOf t.side (t :: turns) = t.act :: actsOf t.side turns := by
  simp [actsOf]

theorem actsOf_ne {w : Side} {t : Turn} (h : w ≠ t.side) :
    actsOf w (t :: turns) = actsOf w turns := by
  simp [actsOf, h.symm]

/-- Both sides in some order, each once. -/
theorem Side.order_cases {order : List Side} (hnodup : order.Nodup) (hall : ∀ w, w ∈ order) :
    ∃ w, order = [w, w.other] := by
  have hperm : order.Perm [.left, .right] := by
    refine (List.perm_ext_iff_of_nodup hnodup (by decide)).mpr fun w => iff_of_true (hall w) ?_
    cases w <;> decide
  match order, hperm with
  | [v, w], h =>
      refine ⟨v, ?_⟩
      rcases Side.eq_or_other w v with rfl | rfl
      · exact absurd List.mem_cons_self (List.nodup_cons.mp hnodup).1
      · rfl
  | [], h => exact nomatch h.length_eq
  | [_], h => exact nomatch h.length_eq
  | _ :: _ :: _ :: _, h => exact nomatch h.length_eq

omit [WireScalar ρ] in
theorem slots_ne (hslots : (requests .left).slot.id ≠ (requests .right).slot.id) {v w : Side}
    (h : v ≠ w) : (requests v).slot.id ≠ (requests w).slot.id := by
  cases v <;> cases w
  · exact absurd rfl h
  · exact hslots
  · exact hslots.symm
  · exact absurd rfl h

/-- What one side changes does not touch what the session remembers for the other. -/
theorem sameFor_ownWrite {w : Side} {slotId : String} {s s' : Session ρ}
    (hslot : slotId ≠ (requests w).slot.id) (h : s.SameFor slotId s') :
    s.SameFor slotId (ownWrite room settings requests session cache w s') := by
  unfold ownWrite ownDecision
  obtain ⟨result, hnone | ⟨record, hput⟩⟩ := (requests w).conclude_cases room settings session cache
  · rw [hnone]
    exact h
  · rw [hput]
    exact h.putSticky hslot _

/-- The writes of other sides leave what a side reads. -/
theorem sameFor_ownWrites (hslots : (requests .left).slot.id ≠ (requests .right).slot.id)
    {w : Side} {order : List Side} (hw : w ∉ order) {s s' : Session ρ}
    (h : s.SameFor (requests w).slot.id s') :
    s.SameFor (requests w).slot.id
      (order.foldl (fun s w => ownWrite room settings requests session cache w s) s') := by
  induction order generalizing s' with
  | nil => exact h
  | cons v order ih =>
      have hv : w ≠ v := fun heq => hw (heq ▸ List.mem_cons_self)
      exact ih (fun hmem => hw (List.mem_cons_of_mem v hmem))
        (sameFor_ownWrite (slots_ne hslots hv) h)

/-- The sides can write in either order. -/
theorem ownWrite_comm (hslots : (requests .left).slot.id ≠ (requests .right).slot.id) {v w : Side}
    (h : v ≠ w) (s : Session ρ) :
    (ownWrite room settings requests session cache v
        (ownWrite room settings requests session cache w s)).Reordered
      (ownWrite room settings requests session cache w
        (ownWrite room settings requests session cache v s)) := by
  unfold ownWrite ownDecision
  obtain ⟨_, hv | ⟨record, hv⟩⟩ := (requests v).conclude_cases room settings session cache
  · rw [hv, hv]
    exact .refl _
  · obtain ⟨_, hw | ⟨record', hw⟩⟩ := (requests w).conclude_cases room settings session cache
    · rw [hv, hw, hv, hw]
      exact .refl _
    · rw [hv, hw, hv, hw]
      exact ⟨rfl, Keyed.insert_insert_perm (slots_ne hslots h).symm s.sticky _ _⟩

/-- The outcome that a side has alone is its own decision, committed in any session. -/
theorem select_eq_conclude (w : Side) (s : Session ρ) :
    (conclude (ownDecision room settings requests session cache w) (requests w).now s).1
      = ((requests w).select room settings session cache).1 := by
  rw [Request.select_eq]
  unfold ownDecision
  obtain ⟨result, hnone | ⟨record, hput⟩⟩ := (requests w).conclude_cases room settings session cache
  · rw [hnone, hnone]
  · rw [hput, hput]

/-! ## One turn, and a whole run -/

theorem Shared.turn_decide (m : Shared ρ) (w : Side) :
    m.turn room settings requests ⟨w, .decide⟩ =
      { m with cache := ((requests w).decide room settings m.session m.cache).2 }.note w
        (.decided ((requests w).decide room settings m.session m.cache).1) :=
  rfl

theorem Shared.turn_commit {w : Side} {outcome : Except (SelectionError ρ) (Decision ρ)}
    (h : m.progress w = .decided outcome) :
    m.turn room settings requests ⟨w, .commit⟩ =
      { m with session := (conclude outcome (requests w).now m.session).2 }.note w
        (.done (conclude outcome (requests w).now m.session).1) := by
  simp only [Shared.turn, h]

theorem Stage.of_decide {w : Side} {p : Progress ρ} {acts : List Act}
    (h : Stage room settings requests session cache w p (.decide :: acts)) : acts = [.commit] := by
  cases h
  rfl

theorem Stage.of_commit {w : Side} {p : Progress ρ} {acts : List Act}
    (h : Stage room settings requests session cache w p (.commit :: acts)) :
    p = .decided (ownDecision room settings requests session cache w) ∧ acts = [] := by
  cases h
  exact ⟨rfl, rfl⟩

namespace Underway

variable {w : Side} {act : Act}

/-- The side whose turn it is has come as far as the turn leaves it. -/
theorem stage_self (h : Underway room settings requests session cache m (⟨w, act⟩ :: turns)) :
    Stage room settings requests session cache w (m.progress w) (act :: actsOf w turns) := by
  have hstage := h.stage w
  rwa [actsOf_self ⟨w, act⟩] at hstage

/-- A turn of one side leaves the other as far as it has come. -/
theorem stage_note {p : Progress ρ}
    (h : Underway room settings requests session cache m (⟨w, act⟩ :: turns))
    (hp : Stage room settings requests session cache w p (actsOf w turns)) (v : Side) :
    Stage room settings requests session cache v ((m.note w p).progress v) (actsOf v turns) := by
  show Stage room settings requests session cache v (if v = w then p else m.progress v) _
  by_cases hv : v = w
  · rw [if_pos hv, hv]
    exact hp
  · rw [if_neg hv, ← actsOf_ne (t := ⟨w, act⟩) hv]
    exact h.stage v

/-- **A decision keeps the invariant**: it comes out as it does on the first session. -/
theorem turn_decide (hcache : cache.Reachable calls)
    (hslots : (requests .left).slot.id ≠ (requests .right).slot.id)
    (hrequest : (requests w).Secluded)
    (h : Underway room settings requests session cache m (⟨w, .decide⟩ :: turns)) :
    Underway room settings requests session cache (m.turn room settings requests ⟨w, .decide⟩)
      turns := by
  obtain ⟨order, hnodup, horder, hsession⟩ := h.written
  have hacts : actsOf w turns = [.commit] := h.stage_self.of_decide
  have hw : w ∉ order := fun hmem =>
    nomatch (actsOf_self ⟨w, .decide⟩).symm.trans ((horder w).mp hmem)
  -- the side has not written yet, and what the other may have written it does not see
  have hdecision : ((requests w).decide room settings m.session m.cache).1
      = ownDecision room settings requests session cache w := by
    rw [hsession]
    exact hrequest.decide_eq hcache (sameFor_ownWrites hslots hw (.refl _ _)) h.reading
  have hreading := ((requests w).decide_reading room settings m.session m.cache).trans h.reading
  rw [Shared.turn_decide, hdecision]
  refine ⟨hreading, fun v => h.stage_note ?_ v, order, hnodup, fun v => ?_, hsession⟩
  · rw [hacts]
    exact .decided
  · rw [horder v]
    by_cases hv : v = w
    · rw [hv, actsOf_self ⟨w, .decide⟩, hacts]
      exact iff_of_false (fun h => nomatch h) (fun h => nomatch h)
    · rw [actsOf_ne (t := ⟨w, .decide⟩) hv]

/-- **A commit keeps the invariant**: it adds the write of its side. -/
theorem turn_commit (h : Underway room settings requests session cache m (⟨w, .commit⟩ :: turns)) :
    Underway room settings requests session cache (m.turn room settings requests ⟨w, .commit⟩)
      turns := by
  obtain ⟨order, hnodup, horder, hsession⟩ := h.written
  obtain ⟨hprogress, hacts⟩ := h.stage_self.of_commit
  have hw : w ∉ order := fun hmem =>
    nomatch (actsOf_self ⟨w, .commit⟩).symm.trans ((horder w).mp hmem)
  rw [Shared.turn_commit hprogress, select_eq_conclude]
  refine ⟨h.reading, fun v => h.stage_note ?_ v, order ++ [w], ?_, fun v => ?_, ?_⟩
  · rw [hacts]
    exact .done
  · refine List.nodup_append.mpr ⟨hnodup, List.pairwise_singleton _ w, fun a ha b hb heq => hw ?_⟩
    rwa [← List.mem_singleton.mp hb, ← heq]
  · rw [List.mem_append, List.mem_singleton, horder v]
    by_cases hv : v = w
    · rw [hv]
      exact iff_of_true (Or.inr rfl) hacts
    · rw [or_iff_left hv, actsOf_ne (t := ⟨w, .commit⟩) hv]
  · rw [List.foldl_append, ← hsession]
    rfl

/-- A whole run keeps the invariant. -/
theorem run (hcache : cache.Reachable calls)
    (hslots : (requests .left).slot.id ≠ (requests .right).slot.id)
    (hrequests : ∀ w, (requests w).Secluded)
    (h : Underway room settings requests session cache m turns) :
    Underway room settings requests session cache (m.run room settings requests turns) [] := by
  induction turns generalizing m with
  | nil => exact h
  | cons t turns ih =>
      obtain ⟨w, act⟩ := t
      cases act with
      | decide => exact ih (h.turn_decide hcache hslots (hrequests w))
      | commit => exact ih h.turn_commit

theorem start {schedule : List Turn} (h : Interleaves schedule) :
    Underway room settings requests session cache (.start session cache) schedule := by
  refine ⟨rfl, fun w => ?_, [], List.nodup_nil, fun w => ?_, rfl⟩
  · rw [h w]
    exact .asked
  · rw [h w]
    exact iff_of_false List.not_mem_nil fun h => nomatch h

end Underway

/-! ## The theorem -/

/-- **Selections on different slots do not interfere.**  Take two selections on slots with different
    ids, whose guards overlook what the session remembers and whose policies do not look at the
    session, and any schedule in which each side decides and later commits.  All decisions are made in
    one room, and the cache may have any history.

    Each side has the outcome that it has alone.  The session ends as it does when the one selection
    follows the other, in either order, up to the order of what it remembers; and the second of the
    two then has the outcome that it has alone, too.  If one side fails to decide, the session ends
    as the other side alone leaves it. -/
theorem selections_do_not_interfere (room : Room) (settings : Settings ρ)
    (requests : Side → Request ρ) (session : Session ρ) (cache : GuardCache)
    (hcache : cache.Reachable calls) (schedule : List Turn)
    (hslots : (requests .left).slot.id ≠ (requests .right).slot.id)
    (hrequests : ∀ w, (requests w).Secluded) (hschedule : Interleaves schedule) :
    let alone := fun w => (requests w).select room settings session cache
    let inTurn := fun w => (requests w.other).select room settings (alone w).2.1 (alone w).2.2
    let final := (Shared.start session cache).run room settings requests schedule
    (∀ w, final.progress w = .done (alone w).1) ∧
    (∀ w, (inTurn w).1 = (alone w.other).1 ∧ final.session.Reordered (inTurn w).2.1) ∧
    ∀ w e, ((requests w).decide room settings session cache).1 = .error e →
      final.session = (alone w.other).2.1 := by
  intro alone inTurn final
  have hfinal : Underway room settings requests session cache final [] :=
    (Underway.start hschedule).run hcache hslots hrequests
  obtain ⟨order, hnodup, horder, hsession⟩ := hfinal.written
  obtain ⟨first, rfl⟩ := Side.order_cases hnodup fun w => (horder w).mpr rfl
  have hwrite : ∀ w, (alone w).2.1 = ownWrite room settings requests session cache w session := by
    intro w
    rw [show alone w = _ from Request.select_eq]
    rfl
  refine ⟨fun w => ?_, fun w => ?_, fun w e he => ?_⟩
  · have hstage := hfinal.stage w
    generalize final.progress w = p at hstage
    cases hstage
    rfl
  · -- the second selection decides as on the first session, so it writes what it writes alone
    have hdecision : ((requests w.other).decide room settings (alone w).2.1 (alone w).2.2).1
        = ownDecision room settings requests session cache w.other := by
      rw [hwrite w]
      refine (hrequests w.other).decide_eq hcache (sameFor_ownWrite ?_ (.refl _ _)) ?_
      · exact slots_ne hslots w.other_ne
      · rw [show alone w = _ from Request.select_eq]
        exact (requests w).decide_reading room settings session cache
    have hinTurn : inTurn w = _ := Request.select_eq
    rw [hinTurn, hdecision]
    refine ⟨select_eq_conclude w.other _, ?_⟩
    rw [hsession]
    show Session.Reordered
      (ownWrite room settings requests session cache first.other
        (ownWrite room settings requests session cache first session))
      (ownWrite room settings requests session cache w.other (alone w).2.1)
    rw [hwrite w]
    rcases Side.eq_or_other w first with rfl | rfl
    · exact .refl _
    · rw [show first.other.other = first by cases first <;> rfl]
      exact ownWrite_comm hslots first.other_ne session
  · -- a side that fails to decide writes nothing
    have hnothing : ∀ s, ownWrite room settings requests session cache w s = s := by
      intro s
      unfold ownWrite ownDecision
      rw [he]
      rfl
    rw [hsession, hwrite w.other]
    show ownWrite room settings requests session cache first.other
      (ownWrite room settings requests session cache first session) = _
    rcases Side.eq_or_other w first with rfl | rfl
    · rw [hnothing]
    · rw [hnothing, show first.other.other = first by cases first <;> rfl]

/-- Two selections on a fresh session, the one with a guard that reads the session: both decide
    before either commits, and the one that decides first commits last. -/
theorem selections_do_not_interfere_nested :
    let requests : Side → Request Rat := fun
      | .left  =>
          ⟨⟨"intro", [{ id := "a", guard := some (.text "session.env.online") }, { id := "b" }],
            none⟩, {}, true, 1⟩
      | .right => ⟨⟨"quiz", [{ id := "c" }], none⟩, {}, false, 2⟩
    let session : Session Rat := { metrics := Metrics.initial }
    let schedule : List Turn :=
      [⟨.left, .decide⟩, ⟨.right, .decide⟩, ⟨.right, .commit⟩, ⟨.left, .commit⟩]
    let room : Room := ⟨970, 970⟩
    let alone := fun w => (requests w).select room .default session {}
    let final := (Shared.start session {}).run room .default requests schedule
    GuardCache.Reachable (fun _ _ => True) {} ∧ (requests .left).slot.id ≠ (requests .right).slot.id ∧
      (∀ w, (requests w).Secluded) ∧ Interleaves schedule ∧
      (∀ w, final.progress w = .done (alone w).1) ∧
      final.session.Reordered
        ((requests .right).select room .default (alone .left).2.1 (alone .left).2.2).2.1 := by
  intro requests session schedule room alone final
  have hslots : (requests .left).slot.id ≠ (requests .right).slot.id := by decide
  have hoverlooks : OverlooksSticky "session.env.online" := by
    intro e he ss hss
    have hparse : parseGuard 970 "session.env.online"
        = .ok (.path .session [.key "env", .key "online"]) := rfl
    cases he.unique (parseGuard_denotes hparse)
    cases List.mem_singleton.mp hss
    exact ⟨_, _, rfl, by decide⟩
  have hrequests : ∀ w, (requests w).Secluded := by
    intro w
    cases w with
    | left =>
        refine ⟨fun v hv g hg => ?_, fun s s' => rfl⟩
        rcases List.mem_cons.mp hv with rfl | hv
        · cases hg
          exact ⟨_, rfl, hoverlooks⟩
        · cases List.mem_singleton.mp hv
          exact nomatch hg
    | right =>
        refine ⟨fun v hv g hg => ?_, fun s s' => rfl⟩
        cases List.mem_singleton.mp hv
        exact nomatch hg
  have hschedule : Interleaves schedule := by
    intro w
    cases w <;> decide
  have hcache : GuardCache.Reachable (fun _ _ => True) {} := .start
  obtain ⟨houtcomes, hsessions, -⟩ :=
    selections_do_not_interfere room Settings.default requests session {} hcache schedule hslots
      hrequests hschedule
  exact ⟨hcache, hslots, hrequests, hschedule, houtcomes, (hsessions .left).2⟩

end LessonVariants
