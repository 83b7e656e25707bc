import DataMapper.Proofs.System.Events
/-!
# Open writes

A write stays open until the data source commits it or rolls it back. What a session has staged
beside an open write is published by the commit of this write and by nothing else, provided that no
rollback of the session fails: a failed rollback leaves the write open, while the session takes it
for undone.
-/

namespace DataMapper

/-- The statement that a call writes with. -/
def SessionCall.written? : SessionCall → Option String
  | .insert id _ | .update id _ | .delete id _ => some id
  | _ => none

namespace Session

variable {s s' : Session} {P : UnitOfWork → Prop} {cached : Bool}

/-- A call that writes asks for an update, and its session counts as written. -/
theorem request_of_written {call : SessionCall} {id : String} (h : call.written? = some id) :
    ∃ parameter, (∀ (s : Session) (catalog : Catalog), s.request catalog call =
        s.named catalog id fun statement => .update statement parameter) ∧
      ∀ outcome before, call.dirtyAfter outcome before = true := by
  cases call with
  | insert id' parameter =>
    obtain rfl : id' = id := Option.some.inj h
    exact ⟨parameter, fun _ _ => rfl, fun _ _ => rfl⟩
  | update id' parameter =>
    obtain rfl : id' = id := Option.some.inj h
    exact ⟨parameter, fun _ _ => rfl, fun _ _ => rfl⟩
  | delete id' parameter =>
    obtain rfl : id' = id := Option.some.inj h
    exact ⟨parameter, fun _ _ => rfl, fun _ _ => rfl⟩
  | _ => cases h

/-- The session does not commit by itself, and counts as written. -/
structure Owing (s : Session) : Prop where
  manual : s.autoCommit = false
  dirty : s.dirty = true

theorem Retains.owing (h : Retains P cached s s') (howing : s.Owing) : s'.Owing :=
  ⟨h.autoCommit.trans howing.manual, h.dirty howing.manual howing.dirty⟩

theorem Owing.boundaryRequired (h : s.Owing) (force : Bool) : s.boundaryRequired force = true :=
  boundaryRequired_of_dirty h.manual h.dirty force

end Session

namespace System

variable {s : System} {a : Nat} {r : RegionRef} {key : CacheKey} {rows : Rows}

/-- The data source commits in the step. -/
def Commits (s : System) (step : Step) : Prop :=
  s.shared.source.commits < (s.step step).2.shared.source.commits

/-- The data source rolls back in the step. -/
def RollsBack (s : System) (step : Step) : Prop :=
  s.shared.source.rollbacks < (s.step step).2.shared.source.rollbacks

instance (s : System) (step : Step) : Decidable (s.Commits step) :=
  inferInstanceAs (Decidable (_ < _))

instance (s : System) (step : Step) : Decidable (s.RollsBack step) :=
  inferInstanceAs (Decidable (_ < _))

/-- The source neither commits nor rolls back in the step. -/
structure Undecided (s : System) (step : Step) : Prop where
  not_commits : ¬ s.Commits step
  not_rollsBack : ¬ s.RollsBack step

instance (s : System) (step : Step) : Decidable (s.Undecided step) :=
  decidable_of_iff (¬ s.Commits step ∧ ¬ s.RollsBack step)
    ⟨fun h => ⟨h.1, h.2⟩, fun h => ⟨h.not_commits, h.not_rollsBack⟩⟩

/-- The step is to roll back what its session has written, and the source fails to. -/
structure FailsToUndo (s : System) (step : Step) : Prop where
  undoes : s.Undoes step
  fails : s.shared.source.fails .rollback = true

/-- A session that does not commit by itself has written over an open connection. -/
def Owes (a : Nat) (s : System) : Prop :=
  s.Works a Session.Owing fun _ => True

/-! ## Steps of a session that has written -/

theorem Coherent.owes_step (h : s.Coherent) (howes : s.Owes a) {step : Step}
    (hstep : step.session? = some a → ¬ s.Publishes step ∧ ¬ s.Undoes step) :
    (s.step step).2.Owes a :=
  h.works_step UnitOfWork.lasting_true (fun _ _ _ hretains howing => hretains.owing howing) howes
    hstep

/-- A write that succeeds is one of an open session, which counts as written afterwards. -/
theorem Coherent.exists_of_written (h : s.Coherent) {call : SessionCall} {id : String}
    (hcall : call.written? = some id) (hok : (s.step (.call a call)).1.succeeded = true) :
    ∃ session statement parameter, s.sessions.get? a = some session ∧
      s.configuration.toCatalog.statement id = .ok statement ∧
      (∃ answer, (session.executor.update statement parameter s.shared).1 = .ok answer) ∧
      ∃ session', (s.step (.call a call)).2.sessions.get? a = some session' ∧
        session'.executor = (session.executor.update statement parameter s.shared).2.1 ∧
        session'.executor.isClosed = false ∧ session'.autoCommit = session.autoCommit ∧
        session'.dirty = true := by
  obtain ⟨session, request, hsession, hrequest, answer, hanswer⟩ := exists_of_succeeded hok
  obtain ⟨parameter, hasks, hdirty⟩ := Session.request_of_written hcall
  have hnamed := hasks session s.configuration.toCatalog
  obtain ⟨statement, hfound, rfl⟩ := Session.exists_of_named (hnamed ▸ hrequest)
  have hx := (h a session hsession).2
  have hedits :=
    Executor.edits_update UnitOfWork.lasting_true hx trivial statement parameter s.shared
  have hafter := get?_call hsession call
  rw [session.perform_eq, hrequest] at hafter
  exact ⟨session, statement, parameter, hsession, hfound, Executor.eq_ok_of_reply hanswer, _,
    hafter, rfl, hedits.closed.trans (Executor.isClosed_of_update hx hanswer), rfl, hdirty _ _⟩

/-- A write that succeeds is open afterwards. -/
theorem Coherent.owes_write (h : s.Coherent) {session : Session}
    (hsession : s.sessions.get? a = some session) (hmanual : session.autoCommit = false)
    {call : SessionCall} {id : String} (hcall : call.written? = some id)
    (hok : (s.step (.call a call)).1.succeeded = true) : (s.step (.call a call)).2.Owes a := by
  obtain ⟨session₀, _, _, hsession₀, _, _, session', hsession', _, hopen, hmode, hdirty⟩ :=
    h.exists_of_written hcall hok
  obtain rfl : session = session₀ := Option.some.inj (hsession.symm.trans hsession₀)
  exact ⟨session', hsession', hopen, ⟨hmode.trans hmanual, hdirty⟩, trivial⟩

/-- A session that has written publishes by a commit only. -/
theorem Coherent.commits_of_publishes (h : s.Coherent) (howes : s.Owes a) {step : Step}
    (hown : step.session? = some a) (hstep : s.Publishes step) : s.Commits step := by
  obtain ⟨session, hsession, _, howing, _⟩ := howes
  have hx := (h a session hsession).2
  have hrequired := howing.boundaryRequired
  cases step with
  | call id call =>
    obtain rfl : id = a := Option.some.inj hown
    have hpublishes := (publishes_call hsession call).1 hstep
    cases call with
    | commit force =>
      have hrequest : session.request s.configuration.toCatalog (.commit force) =
          .ok (.commit (session.boundaryRequired force)) :=
        Session.unsealed_eq hpublishes.1 _
      unfold Commits
      rw [(step_call hsession _).2, session.perform_eq, hrequest]
      exact Executor.commits_perform hx hpublishes.2
    | close => exact nomatch (hrequired false).symm.trans hpublishes.2
    | _ => exact hpublishes.elim
  | dropSession id =>
    obtain rfl : id = a := Option.some.inj hown
    have hends := (publishes_dropSession hsession).1 hstep
    exact nomatch (hrequired false).symm.trans hends.2
  | _ => cases hown

/-- An open session that undoes has the source roll back, unless that fails. -/
theorem Coherent.rollsBack_of_undoes (h : s.Coherent) (howes : s.Owes a) {step : Step}
    (hown : step.session? = some a) (hstep : s.Undoes step) :
    s.shared.source.fails .rollback = true ∨ s.RollsBack step := by
  obtain ⟨session, hsession, hopen, _, _⟩ := howes
  have hx := (h a session hsession).2
  unfold RollsBack
  cases step with
  | call id call =>
    obtain rfl : id = a := Option.some.inj hown
    rw [(step_call hsession call).2]
    exact Session.rolledBack_perform hx hopen ((undoes_call hsession call).1 hstep)
  | dropSession id =>
    obtain rfl : id = a := Option.some.inj hown
    rw [shared_dropSession hsession]
    exact Session.rolledBack_drop hx ((undoes_dropSession hsession).1 hstep)
  | _ => cases hown

theorem Coherent.not_stages_of_undoes (h : s.Coherent) {step : Step}
    (hown : step.session? = some a) (hstep : s.Undoes step) :
    ¬ (s.step step).2.Stages a r key rows := by
  rintro ⟨session', hsession', hrows⟩
  obtain ⟨b, session, hown', hsession⟩ := exists_of_undoes hstep
  obtain rfl : a = b := Option.some.inj (hown.symm.trans hown')
  cases step with
  | call id call =>
    obtain rfl : id = a := Option.some.inj hown
    have hundoes := (undoes_call hsession call).1 hstep
    rw [get?_call hsession call] at hsession'
    cases hsession'
    rw [Session.work_perform_of_undoes (h id session hsession).2 hundoes,
      UnitOfWork.viewOf_rollbackAll] at hrows
    cases hrows
  | dropSession id =>
    obtain rfl : id = a := Option.some.inj hown
    rw [get?_dropSession] at hsession'
    cases hsession'
  | _ => cases hown

/-! ## Runs of a session that has written -/

/-- A write stays open while the source neither commits nor rolls back, nor fails to. -/
theorem Coherent.owes_after (h : s.Coherent) (howes : s.Owes a) {events : List Event}
    (hundecided : s.Throughout (fun s step => step.session? = some a → s.Undecided step) events)
    (hfails : s.Throughout (fun s step => step.session? = some a → ¬ s.FailsToUndo step) events) :
    (s.after events).Owes a := by
  induction events generalizing s with
  | nil => exact howes
  | cons event rest ih =>
    cases event with
    | refuse r calls => exact ih (h.happen (.refuse r calls)) howes hundecided hfails
    | step step =>
      have howes' : (s.step step).2.Owes a := h.owes_step howes fun hown => by
        refine ⟨fun hpublishes => ?_, fun hundoes => ?_⟩
        · exact (hundecided.1 hown).not_commits (h.commits_of_publishes howes hown hpublishes)
        · rcases h.rollsBack_of_undoes howes hown hundoes with hfailed | hrolled
          · exact hfails.1 hown ⟨hundoes, hfailed⟩
          · exact (hundecided.1 hown).not_rollsBack hrolled
      exact ih (h.step step) howes' hundecided.2 hfails.2

/-- As long as something stays staged beside an open write, only a commit can publish it. -/
theorem Coherent.sometime_commits (h : s.Coherent) (howes : s.Owes a) {events : List Event}
    (hstages : s.Meanwhile (fun s => s.Stages a r key rows) events) {last : Step}
    (hown : last.session? = some a) (hlast : (s.after events).Publishes last) :
    s.Sometime (fun s step => step.session? = some a ∧ s.Commits step)
      (events ++ [.step last]) := by
  induction events generalizing s with
  | nil => exact .inl ⟨hown, h.commits_of_publishes howes hown hlast⟩
  | cons event rest ih =>
    obtain ⟨_, hrest⟩ := hstages
    cases event with
    | refuse r calls => exact ih (h.happen (.refuse r calls)) howes hrest hlast
    | step step =>
      by_cases hcommits : step.session? = some a ∧ s.Commits step
      · exact .inl hcommits
      · have howes' : (s.step step).2.Owes a := h.owes_step howes fun hstep => by
          refine ⟨fun hpublishes => ?_, fun hundoes => ?_⟩
          · exact hcommits ⟨hstep, h.commits_of_publishes howes hstep hpublishes⟩
          · exact h.not_stages_of_undoes hstep hundoes hrest.here
        exact .inr (ih (h.step step) howes' hrest hlast)

end System

/-- A write of one session, what happens before it, and what happens since. -/
structure PastWrite where
  writer : Nat
  call : SessionCall
  before : List Event
  since : List Event

namespace PastWrite

variable (w : PastWrite) (s : System)

/-- The system that the write meets. -/
def atWrite : System :=
  s.after w.before

/-- The system once the write is done. -/
def written : System :=
  ((w.atWrite s).step (.call w.writer w.call)).2

/-- The system after all that has happened since. -/
def now : System :=
  (w.written s).after w.since

/-- In a run that starts without sessions, the call of a session in this mode succeeds. -/
structure Succeeds (autoCommit : Bool) : Prop where
  sessions : s.sessions = .empty
  mode : ∃ session, (w.atWrite s).sessions.get? w.writer = some session ∧
    session.autoCommit = autoCommit
  succeeded : ((w.atWrite s).step (.call w.writer w.call)).1.succeeded = true

/-- A session that does not commit by itself has written, and the source has neither committed nor
rolled back for this session since. -/
structure Open : Prop extends Succeeds w s false where
  writes : w.call.written?.isSome = true
  undecided : (w.written s).Throughout
    (fun s step => step.session? = some w.writer → s.Undecided step) w.since

variable {w s}

theorem Succeeds.coherent {autoCommit : Bool} (h : w.Succeeds s autoCommit) :
    (w.atWrite s).Coherent :=
  (System.coherent_of_empty h.sessions).after w.before

/-- What a session has staged beside an open write is published only once the source has committed,
unless a rollback of the session has failed since the write. -/
theorem staged_rows_wait_for_commit (h : w.Open s)
    (hfails : (w.written s).Throughout
      (fun s step => step.session? = some w.writer → ¬ s.FailsToUndo step) w.since)
    {r : RegionRef} {key : CacheKey} {rows : Rows} {later : List Event}
    (hstaged : (w.now s).Meanwhile (fun s => s.Stages w.writer r key rows) later)
    {last : Step} (hown : last.session? = some w.writer)
    (hlast : ((w.now s).after later).Publishes last) :
    (w.now s).Sometime (fun s step => step.session? = some w.writer ∧ s.Commits step)
      (later ++ [.step last]) := by
  obtain ⟨session, hsession, hmanual⟩ := h.mode
  obtain ⟨id, hcall⟩ := Option.isSome_iff_exists.1 h.writes
  have hwritten : (w.written s).Coherent := h.coherent.step (.call w.writer w.call)
  have howes : (w.written s).Owes w.writer :=
    h.coherent.owes_write hsession hmanual hcall h.succeeded
  have hnow : (w.now s).Owes w.writer := hwritten.owes_after howes h.undecided hfails
  exact (hwritten.after w.since).sometime_commits hnow hstaged hown hlast

end PastWrite

namespace System

/-! ## A write that is followed by a select -/

/-- The key of the select in the system with one region. -/
def findKey : CacheKey :=
  .ofComponents [.text "find", CacheKey.boundValue RowBounds.all.offset,
    CacheKey.boundValue RowBounds.all.limit, .text "development"]

/-- A session writes and selects. -/
def selecting : PastWrite where
  writer := 0
  call := .update "touch" .null
  before := [.step (.openSession (some false))]
  since := [.step (.call 0 (.selectList "find" .null .all))]

/-- A session writes, fails to roll back, and then selects. -/
def abandoned : PastWrite where
  writer := 0
  call := .update "touch" .null
  before := [.step (.openSession (some false))]
  since :=
    [.step (.setRows "find" [.int 2]), .step (.fail .rollback), .step (.call 0 (.rollback false)),
      .step (.heal .rollback), .step (.call 0 (.selectList "find" .null .all))]

/-- What a session has staged under the key of the select. -/
theorem stages_findKey {s : System} {rows : Rows}
    (h : ((s.sessions.get? 0).bind fun session =>
      (session.executor.work.viewOf users).staged.get? findKey) = some rows) :
    s.Stages 0 users findKey rows :=
  Option.bind_eq_some_iff.1 h

theorem open_abandoned : abandoned.Open (ofOneRegion [.int 1]) where
  sessions := rfl
  mode := ⟨{ executor := newExecutor {}, autoCommit := false }, rfl, rfl⟩
  writes := rfl
  succeeded := by decide +kernel
  undecided := by decide +kernel

/-- The source has committed nothing when the session closes, and yet the region gets the row that
only the open write has made. -/
theorem row_of_abandoned_write_is_published :
    let s := ofOneRegion [.int 1]
    let last : Step := .call 0 .close
    abandoned.Open s ∧ (abandoned.now s).Stages 0 users findKey [.int 2] ∧
      (abandoned.now s).Publishes last ∧
      ¬ (abandoned.now s).Sometime (fun s step => step.session? = some 0 ∧ s.Commits step)
        [.step last] ∧
      ((abandoned.now s).step last).2.shared.regions.contents users findKey =
        some [.int 2] := by
  refine ⟨open_abandoned, stages_findKey (by decide +kernel), ⟨rfl, rfl⟩, ?_, ?_⟩
  · decide +kernel
  · decide +kernel

theorem open_selecting : selecting.Open (ofOneRegion [.int 1]) where
  sessions := rfl
  mode := ⟨{ executor := newExecutor {}, autoCommit := false }, rfl, rfl⟩
  writes := rfl
  succeeded := by decide +kernel
  undecided := by decide +kernel

/-- The row that a session selects beside its write is published by its commit. -/
theorem row_beside_write_waits_for_commit :
    let s := ofOneRegion [.int 1]
    let last : Step := .call 0 (.commit false)
    (selecting.now s).Stages 0 users findKey [.int 1] ∧
      (selecting.now s).Publishes last ∧
      (selecting.now s).Sometime (fun s step => step.session? = some 0 ∧ s.Commits step)
        [.step last] := by
  intro s last
  have hstages : (selecting.now s).Stages 0 users findKey [.int 1] :=
    stages_findKey (by decide +kernel)
  have hstaged : (selecting.now s).Meanwhile
      (fun s => s.Stages 0 users findKey [.int 1]) [] := hstages
  have hlast : (selecting.now s).Publishes last := ⟨rfl, rfl⟩
  have hfails : (selecting.written s).Throughout
      (fun s step => step.session? = some 0 → ¬ s.FailsToUndo step) selecting.since :=
    ⟨fun _ h => not_undoes_of_call (fun _ => id) h.undoes, trivial⟩
  exact ⟨hstages, hlast,
    PastWrite.staged_rows_wait_for_commit open_selecting hfails hstaged rfl hlast⟩

end System

end DataMapper
