import DataMapper.Proofs.Session.Closing
import DataMapper.Proofs.System.Events
import Mathlib.Algebra.BigOperators.Group.Finset.Piecewise
/-!
# Every connection is closed once

A session ends with its first close that no broken handler prevents, or else when it is dropped.
Main statement: over any run, whatever fails and whenever, the source counts one close for each
session that has ended and none for any other, and a session that has uncommitted writes at its end
has them rolled back first.
-/

namespace DataMapper

/-- The step closes the session or drops it. -/
def Step.Finishes (a : Nat) (session : Session) : Step → Prop
  | .call id made => id = a ∧ session.Closes made
  | .dropSession id => id = a
  | _ => False

instance (a : Nat) (session : Session) : (step : Step) → Decidable (step.Finishes a session)
  | .call _ _ => inferInstanceAs (Decidable (_ ∧ _))
  | .dropSession _ => inferInstanceAs (Decidable (_ = _))
  | .openSession _ => .isFalse id
  | .setRows _ _ => .isFalse id
  | .setAffected _ _ => .isFalse id
  | .fail _ => .isFalse id
  | .heal _ => .isFalse id

namespace System

variable {s : System} {a : Nat} {step : Step}

/-- The step closes a session, or drops it. -/
def Finishes (a : Nat) (s : System) (step : Step) : Prop :=
  ∃ session ∈ s.sessions.get? a, step.Finishes a session

instance (a : Nat) (s : System) (step : Step) : Decidable (s.Finishes a step) :=
  inferInstanceAs (Decidable (∃ session ∈ s.sessions.get? a, _))

/-- The session has an open connection, or is yet to be opened. -/
def Closable (a : Nat) (s : System) : Prop :=
  s.opened ≤ a ∨ ∃ session ∈ s.sessions.get? a, session.executor.isClosed = false

instance (a : Nat) (s : System) : Decidable (s.Closable a) :=
  inferInstanceAs (Decidable (_ ∨ ∃ session ∈ s.sessions.get? a, _))

/-- The closes that the source counts in a step of one session. -/
def closesIn (a : Nat) (s : System) (step : Step) : Nat :=
  if step.session? = some a then
    (s.step step).2.shared.source.closes - s.shared.source.closes
  else 0

/-- The closes that the source counts in the steps of one session. -/
def closings (a : Nat) (s : System) : List Event → Nat
  | [] => 0
  | .step step :: rest => s.closesIn a step + (s.step step).2.closings a rest
  | .refuse r calls :: rest => (s.refuse r calls).closings a rest

/-! ## One step -/

theorem session?_of_finishes (h : s.Finishes a step) : step.session? = some a := by
  obtain ⟨session, _, hfin⟩ := h
  cases step with
  | call id call => exact congrArg some hfin.1
  | dropSession id => exact congrArg some hfin
  | _ => exact hfin.elim

theorem finishes_iff {session : Session} (hsession : s.sessions.get? a = some session) :
    s.Finishes a step ↔ step.Finishes a session := by
  unfold Finishes
  rw [hsession]
  simp

theorem not_finishes_of_none (hnone : s.sessions.get? a = none) : ¬ s.Finishes a step := by
  rintro ⟨session, hsession, _⟩
  rw [hnone] at hsession
  cases hsession

theorem closable_iff_of_lt {session : Session} (hlt : a < s.opened)
    (hsession : s.sessions.get? a = some session) :
    s.Closable a ↔ session.executor.isClosed = false := by
  unfold Closable
  rw [hsession]
  simp [Nat.not_le.2 hlt]

theorem isClosed_newExecutor (settings : Settings) : (newExecutor settings).isClosed = false := by
  unfold newExecutor
  split_ifs <;> rfl

/-- Steps that a session does not take leave its connection as open as it was. -/
theorem closable_of_other (hstep : step.session? ≠ some a) :
    (s.step step).2.Closable a ↔ s.Closable a := by
  by_cases hlt : a < s.opened
  · have hlt' : a < (s.step step).2.opened := Nat.lt_of_lt_of_le hlt (s.opened_step step)
    unfold Closable
    rw [get?_of_other hstep hlt]
    simp [Nat.not_le.2 hlt, Nat.not_le.2 hlt']
  · have hle := Nat.le_of_not_lt hlt
    refine ⟨fun _ => .inl hle, fun _ => ?_⟩
    cases step with
    | openSession mode =>
      unfold System.step openSession
      dsimp only
      split_ifs
      · exact .inl hle
      · rcases Nat.eq_or_lt_of_le hle with rfl | hlt'
        · exact .inr ⟨_, Table.get?_insert_self _ _ _, isClosed_newExecutor _⟩
        · exact .inl hlt'
    | dropSession id =>
      left
      unfold System.step dropSession
      dsimp only
      cases s.sessions.get? id <;> exact hle
    | call id call =>
      left
      unfold System.step System.call
      dsimp only
      cases s.sessions.get? id <;> exact hle
    | _ => exact .inl hle

/-- A step of a session that is not there changes nothing. -/
theorem step_of_none (hown : step.session? = some a) (hnone : s.sessions.get? a = none) :
    (s.step step).2 = s := by
  cases step with
  | call id call =>
    obtain rfl : id = a := Option.some.inj hown
    unfold System.step System.call
    dsimp only
    rw [hnone]
  | dropSession id =>
    obtain rfl : id = a := Option.some.inj hown
    unfold System.step dropSession
    dsimp only
    rw [hnone]
  | _ => cases hown

/-- A step of a session leaves its connection open unless it finishes the session. -/
theorem Coherent.closable_step (h : s.Coherent) (a : Nat) (step : Step) :
    (s.step step).2.Closable a ↔ s.Closable a ∧ ¬ s.Finishes a step := by
  by_cases hown : step.session? = some a
  swap
  · rw [closable_of_other hown]
    exact (and_iff_left fun hfin => hown (session?_of_finishes hfin)).symm
  cases hsession : s.sessions.get? a with
  | none =>
    rw [step_of_none hown hsession]
    exact (and_iff_left (not_finishes_of_none hsession)).symm
  | some session =>
    obtain ⟨hlt, _⟩ := h a session hsession
    have hlt' : a < (s.step step).2.opened := Nat.lt_of_lt_of_le hlt (s.opened_step step)
    rw [closable_iff_of_lt hlt hsession, finishes_iff hsession]
    cases step with
    | call id call =>
      obtain rfl : id = a := Option.some.inj hown
      rw [closable_iff_of_lt hlt' (get?_call hsession call)]
      by_cases hcloses : session.Closes call
      · rw [(Session.perform_of_closes hcloses).1]
        simp [Step.Finishes, hcloses]
      · rw [(Session.keepsOpen_perform hcloses).closed]
        simp [Step.Finishes, hcloses]
    | dropSession id =>
      obtain rfl : id = a := Option.some.inj hown
      unfold Closable
      rw [get?_dropSession]
      simp [Nat.not_le.2 hlt', Step.Finishes]
    | _ => cases hown

/-- What a step that finishes a session makes of the source. -/
theorem source_of_finishes {session : Session} (hsession : s.sessions.get? a = some session)
    (hfin : step.Finishes a session) :
    (s.step step).2.shared.source = session.sourceClosed s.shared.source := by
  cases step with
  | call id call =>
    obtain ⟨rfl, hcloses⟩ := hfin
    rw [(step_call hsession call).2, (Session.perform_of_closes hcloses).2]
  | dropSession id =>
    obtain rfl : id = a := hfin
    rw [shared_dropSession hsession, Session.source_drop]
  | _ => exact hfin.elim

/-- No other step of a session opens or closes a connection. -/
theorem sameEnds_step (hown : step.session? = some a) (hfin : ¬ s.Finishes a step) :
    (s.step step).2.shared.source.SameEnds s.shared.source := by
  cases hsession : s.sessions.get? a with
  | none =>
    rw [step_of_none hown hsession]
    exact ⟨rfl, rfl⟩
  | some session =>
    rw [finishes_iff hsession] at hfin
    cases step with
    | call id call =>
      obtain rfl : id = a := Option.some.inj hown
      have hcloses : ¬ session.Closes call := fun hcloses => hfin ⟨rfl, hcloses⟩
      rw [(step_call hsession call).2]
      exact (Session.keepsOpen_perform hcloses).ends
    | dropSession id => exact absurd (Option.some.inj hown) hfin
    | _ => cases hown

/-- A step of a session counts one close if it finishes the session over an open connection, and
none otherwise. -/
theorem Coherent.closes_step (h : s.Coherent) (hown : step.session? = some a) :
    (s.step step).2.shared.source.closes =
      s.shared.source.closes + if s.Closable a ∧ s.Finishes a step then 1 else 0 := by
  by_cases hfin : s.Finishes a step
  · obtain ⟨session, hsession, hends⟩ := hfin
    have hclosable := closable_iff_of_lt (h a session hsession).1 hsession
    have hfin := (finishes_iff hsession).2 hends
    rw [source_of_finishes hsession hends]
    cases hclosed : session.executor.isClosed with
    | true => simp [Session.sourceClosed_of_closed hclosed, hclosable, hclosed]
    | false => simp [Session.sourceClosed_of_open hclosed, hclosable, hclosed, hfin]
  · rw [if_neg fun hand => hfin hand.2, (sameEnds_step hown hfin).closes]
    rfl

theorem Coherent.closesIn_eq (h : s.Coherent) (a : Nat) (step : Step) :
    s.closesIn a step = if s.Closable a ∧ s.Finishes a step then 1 else 0 := by
  unfold closesIn
  by_cases hown : step.session? = some a
  · rw [if_pos hown, h.closes_step hown, Nat.add_sub_cancel_left]
  · rw [if_neg hown, if_neg fun hand => hown (session?_of_finishes hand.2)]

/-- The closes that a step counts are those of the sessions. -/
theorem Coherent.closes_eq_sum (h : s.Coherent) (step : Step) {n : Nat} (hn : s.opened ≤ n) :
    (s.step step).2.shared.source.closes =
      s.shared.source.closes + ∑ a ∈ Finset.range n, s.closesIn a step := by
  cases hown : step.session? with
  | none =>
    have hsum : ∑ a ∈ Finset.range n, s.closesIn a step = 0 :=
      Finset.sum_eq_zero fun a _ => if_neg (by simp [hown])
    rw [hsum]
    cases step with
    | call id call => cases hown
    | dropSession id => cases hown
    | openSession mode =>
      unfold System.step openSession
      dsimp only
      split_ifs <;> rfl
    | _ => rfl
  | some b =>
    have hothers : ∀ a ∈ Finset.range n, a ≠ b → s.closesIn a step = 0 := by
      intro a _ hne
      exact if_neg fun hsame => hne (Option.some.inj (hsame.symm.trans hown))
    have hbeyond : b ∉ Finset.range n → s.closesIn b step = 0 := by
      intro hout
      rw [h.closesIn_eq]
      refine if_neg fun hand => hout ?_
      obtain ⟨session, hsession, _⟩ := hand.2
      exact Finset.mem_range.2 (Nat.lt_of_lt_of_le (h b session hsession).1 hn)
    rw [Finset.sum_eq_single b hothers hbeyond, h.closesIn_eq, h.closes_step hown]

theorem opened_of_session? (hown : step.session? = some a) :
    (s.step step).2.opened = s.opened := by
  cases hsession : s.sessions.get? a with
  | none => rw [step_of_none hown hsession]
  | some session =>
    cases step with
    | call id call =>
      obtain rfl : id = a := Option.some.inj hown
      unfold System.step System.call
      dsimp only
      rw [hsession]
    | dropSession id =>
      obtain rfl : id = a := Option.some.inj hown
      unfold System.step dropSession
      dsimp only
      rw [hsession]
    | _ => cases hown

/-- The source counts the sessions that are opened. -/
theorem openings_step (s : System) (step : Step) :
    (s.step step).2.shared.source.opened + s.opened =
      s.shared.source.opened + (s.step step).2.opened := by
  cases hown : step.session? with
  | some a =>
    rw [opened_of_session? hown]
    by_cases hfin : s.Finishes a step
    · obtain ⟨session, hsession, hends⟩ := hfin
      rw [source_of_finishes hsession hends, session.opened_sourceClosed]
    · rw [(sameEnds_step hown hfin).opened]
  | none =>
    cases step with
    | call id call => cases hown
    | dropSession id => cases hown
    | openSession mode =>
      unfold System.step openSession
      dsimp only
      split_ifs
      · rfl
      · dsimp only
        omega
    | _ => rfl

/-! ## Runs -/

theorem Coherent.closable_after (h : s.Coherent) (a : Nat) (events : List Event) :
    (s.after events).Closable a ↔ s.Closable a ∧ ¬ s.Sometime (Finishes a) events := by
  induction events generalizing s with
  | nil => exact (and_iff_left id).symm
  | cons event rest ih =>
    cases event with
    | step step =>
      refine (ih (h.step step)).trans ?_
      rw [h.closable_step, and_assoc]
      exact and_congr_right fun _ => not_or.symm
    | refuse r calls => exact ih (s := s.refuse r calls) h

theorem Coherent.closings_eq (h : s.Coherent) (a : Nat) (events : List Event) :
    s.closings a events = if s.Closable a ∧ s.Sometime (Finishes a) events then 1 else 0 := by
  induction events generalizing s with
  | nil => exact (if_neg And.right).symm
  | cons event rest ih =>
    cases event with
    | step step =>
      have hsometime : s.Sometime (Finishes a) (.step step :: rest) ↔
          s.Finishes a step ∨ (s.step step).2.Sometime (Finishes a) rest := Iff.rfl
      have hnext := h.closable_step a step
      rw [closings, h.closesIn_eq, ih (h.step step)]
      by_cases hclosable : s.Closable a <;> by_cases hfin : s.Finishes a step <;>
        simp [hsometime, hnext, hclosable, hfin]
    | refuse r calls => exact ih (s := s.refuse r calls) h

theorem opened_le_after (s : System) (events : List Event) :
    s.opened ≤ (s.after events).opened := by
  induction events generalizing s with
  | nil => exact Nat.le_refl _
  | cons event rest ih =>
    cases event with
    | step step => exact Nat.le_trans (s.opened_step step) (ih (s.step step).2)
    | refuse r calls => exact ih (s.refuse r calls)

theorem Coherent.closes_after (h : s.Coherent) (events : List Event) {n : Nat}
    (hn : (s.after events).opened ≤ n) :
    (s.after events).shared.source.closes =
      s.shared.source.closes + ∑ a ∈ Finset.range n, s.closings a events := by
  induction events generalizing s with
  | nil =>
    have hsum : ∑ a ∈ Finset.range n, s.closings a [] = 0 := Finset.sum_eq_zero fun _ _ => rfl
    rw [hsum]
    rfl
  | cons event rest ih =>
    cases event with
    | step step =>
      have hopened : s.opened ≤ n := Nat.le_trans (s.opened_le_after (.step step :: rest)) hn
      refine (ih (h.step step) hn).trans ?_
      rw [h.closes_eq_sum step hopened, Nat.add_assoc, ← Finset.sum_add_distrib]
      rfl
    | refuse r calls => exact ih (s := s.refuse r calls) h hn

theorem openings_after (s : System) (events : List Event) :
    (s.after events).shared.source.opened + s.opened =
      s.shared.source.opened + (s.after events).opened := by
  induction events generalizing s with
  | nil => rfl
  | cons event rest ih =>
    cases event with
    | step step =>
      have hstep := s.openings_step step
      have hrest : ((s.step step).2.after rest).shared.source.opened + (s.step step).2.opened =
          (s.step step).2.shared.source.opened + ((s.step step).2.after rest).opened :=
        ih (s.step step).2
      change ((s.step step).2.after rest).shared.source.opened + s.opened =
        s.shared.source.opened + ((s.step step).2.after rest).opened
      omega
    | refuse r calls => exact ih (s.refuse r calls)

/-! ## Every run -/

/-- What a run of sessions makes of their connections. -/
structure ClosesOnce (s : System) (events : List Event) : Prop where
  /-- A session that has ended was closed once, and any other one never. -/
  closings_eq : ∀ a, s.closings a events = if s.Sometime (Finishes a) events then 1 else 0
  closes_eq : (s.after events).shared.source.closes = s.shared.source.closes +
    ((Finset.range (s.after events).opened).filter fun a => s.Sometime (Finishes a) events).card
  opened_eq : (s.after events).shared.source.opened =
    s.shared.source.opened + (s.after events).opened
  closed_iff : ∀ a session, (s.after events).sessions.get? a = some session →
    (session.executor.isClosed = true ↔ s.Sometime (Finishes a) events)
  /-- Once all sessions are dropped, every connection that was opened is closed. -/
  all_closed : (∀ a, (s.after events).sessions.get? a = none) →
    (s.after events).shared.source.closes = s.shared.source.closes + (s.after events).opened
  /-- The step that ends a session over an open connection closes it, after a rollback of writes
  that it has not committed. -/
  rolledBack : ∀ a step session, (s.after events).sessions.get? a = some session →
    step.Finishes a session → session.executor.isClosed = false →
      session.autoCommit = false → session.dirty = true →
        let source := (s.after events).shared.source
        (s.after (events ++ [.step step])).shared.source =
            { (session.executor.connection.rollback source true).2.2 with
              closes := source.closes + 1 } ∧
          (source.fails .rollback = false →
            (s.after (events ++ [.step step])).shared.source.rollbacks = source.rollbacks + 1) ∧
          (source.fails .rollback = true → ∀ answer,
            ((s.after events).step step).1 ≠ .answered (.ok answer))

/-- Nothing that fails keeps a session from closing its connection, and nothing makes it close it
twice. -/
theorem connections_are_closed_once (hsessions : s.sessions = .empty) (hopened : s.opened = 0)
    (events : List Event) : s.ClosesOnce events := by
  have hcoherent : s.Coherent := coherent_of_empty hsessions
  have hclosable : ∀ a, s.Closable a := fun a => .inl (hopened ▸ Nat.zero_le a)
  have hafter : ∀ a, (s.after events).Closable a ↔ ¬ s.Sometime (Finishes a) events := fun a =>
    (hcoherent.closable_after a events).trans (and_iff_right (hclosable a))
  have hclosings : ∀ a, s.closings a events = if s.Sometime (Finishes a) events then 1 else 0 := by
    intro a
    rw [hcoherent.closings_eq]
    simp [hclosable a]
  have hcloses : (s.after events).shared.source.closes = s.shared.source.closes +
      ((Finset.range (s.after events).opened).filter fun a =>
        s.Sometime (Finishes a) events).card := by
    rw [hcoherent.closes_after events (Nat.le_refl _), Finset.card_filter]
    simp only [hclosings]
  have hcoherent' : (s.after events).Coherent := hcoherent.after events
  refine ⟨hclosings, hcloses, ?_, fun a session hsession => ?_, fun hgone => ?_,
    fun a step session hsession hfin hopen hmanual hdirty => ?_⟩
  · have hopenings := s.openings_after events
    omega
  · have hiff := hafter a
    rw [closable_iff_of_lt (hcoherent' a session hsession).1 hsession] at hiff
    rw [← Decidable.not_iff_not, Bool.not_eq_true]
    exact hiff
  · rw [hcloses, Finset.filter_true_of_mem, Finset.card_range]
    intro a ha
    by_contra hnever
    rcases (hafter a).2 hnever with hle | ⟨session, hsession, _⟩
    · exact absurd (Finset.mem_range.1 ha) (Nat.not_lt.2 hle)
    · rw [hgone a] at hsession
      cases hsession
  · intro source
    have hrequired : session.boundaryRequired false = true :=
      Session.boundaryRequired_of_dirty hmanual hdirty false
    have hsource : (s.after (events ++ [.step step])).shared.source =
        { (session.executor.connection.rollback source true).2.2 with
          closes := source.closes + 1 } := by
      rw [after_append, ← hrequired, ← Session.sourceClosed_of_open hopen]
      exact source_of_finishes hsession hfin
    refine ⟨hsource, fun hworks => ?_, fun hfails answer => ?_⟩
    · have hopen' : session.executor.connection.closed = false := hopen
      rw [hsource]
      simp [Connection.rollback, hopen', hworks]
    · cases step with
      | call id call =>
        obtain ⟨rfl, hcloses⟩ := hfin
        rw [(step_call hsession call).1]
        exact fun heq => Session.not_ok_of_closes hcloses hopen hrequired hfails answer
          (Reply.answered.inj heq)
      | dropSession id =>
        unfold System.step dropSession
        dsimp only
        obtain rfl : id = a := hfin
        rw [hsession]
        rintro ⟨⟩
      | _ => exact hfin.elim

/-- Three sessions over one region that refuses its batches. The first one writes, and can neither
roll back nor close without an error; the second one is sealed by its handler and closed in vain;
the third one writes and is only dropped. -/
theorem failing_sessions_are_closed_once :
    let s := ofOneRegion [.int 1]
    let events : List Event := [
      .step (.openSession none), .step (.openSession (some true)), .step (.openSession none),
      .step (.call 0 (.update "touch" .null)),
      .step (.call 1 (.select "find" .null .all ⟨0, some 0⟩)), .step (.call 1 .close),
      .refuse users [.apply], .step (.fail .rollback), .step (.fail .close),
      .step (.call 0 .close), .step (.call 0 .close), .step (.heal .rollback),
      .step (.call 2 (.update "touch" .null)),
      .step (.dropSession 1), .step (.dropSession 0), .step (.dropSession 2)]
    s.sessions = .empty ∧ s.opened = 0 ∧ s.ClosesOnce events ∧
      (s.after events).shared.source.closes = 3 ∧ (s.after events).shared.source.rollbacks = 1 := by
  intro s events
  exact ⟨rfl, rfl, connections_are_closed_once rfl rfl events, by decide +kernel,
    by decide +kernel⟩

end System

end DataMapper
