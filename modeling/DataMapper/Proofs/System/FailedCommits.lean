import DataMapper.Proofs.Mapper.Lockstep
import DataMapper.Proofs.System.Freshness
import DataMapper.Proofs.System.Mappers
import DataMapper.Proofs.System.OpenWrites
/-!
# Commits that fail

A commit that fails in the data source may as well not have been called. Nothing is published or
lost, and whatever is done from then on is answered, and changes what is shared, just as it would
without that commit.
-/

namespace DataMapper

/-- What an action is answered with. -/
inductive Answer where
  | nothing
  | reply (reply : Reply)
  | result (outcome : Outcome MapperResult)

/-- What a session tells of itself: whether it is dirty, whether it is closed, and its text. -/
def Session.status (s : Session) : Except Error Bool × Except Error Bool × String :=
  (s.isDirty, s.isClosed, s.inspect)

namespace System

variable {s t : System} {a : Nat}

def answer (s : System) : Action → Answer
  | .event (.step step) => .reply (s.step step).1
  | .event (.refuse _ _) => .nothing
  | .invoke proxy method args room =>
    match s.invoke proxy method args room with
    | none => .nothing
    | some (outcome, _) => .result outcome

/-- The answers to all these actions, one after the other. -/
def answers (s : System) : List Action → List Answer
  | [] => []
  | action :: rest => s.answer action :: (s.act action).answers rest

/-! ## Systems in lockstep -/

/-- The same system, but for the keys that connections remember. -/
structure Alike (s t : System) : Prop where
  configuration : s.configuration = t.configuration
  standalone : s.standalone = t.standalone
  opened : s.opened = t.opened
  shared : s.shared = t.shared
  sessions : ∀ id,
    Option.Rel (Session.Related Executor.Alike) (s.sessions.get? id) (t.sessions.get? id)

namespace Alike

theorem insert (h : s.Alike t) (id : Nat) {session session' : Session} (shared : Shared)
    (hsession : Session.Related Executor.Alike session session') :
    Alike { s with shared, sessions := s.sessions.insert id session }
      { t with shared, sessions := t.sessions.insert id session' } := by
  refine ⟨h.configuration, h.standalone, h.opened, rfl, fun id' => ?_⟩
  dsimp only
  rw [Table.get?_insert, Table.get?_insert]
  split_ifs
  · exact .some hsession
  · exact h.sessions id'

theorem erase (h : s.Alike t) (id : Nat) (shared : Shared) :
    Alike { s with shared, sessions := s.sessions.erase id }
      { t with shared, sessions := t.sessions.erase id } := by
  refine ⟨h.configuration, h.standalone, h.opened, rfl, fun id' => ?_⟩
  dsimp only
  rw [Table.get?_erase, Table.get?_erase]
  split_ifs
  · exact .none
  · exact h.sessions id'

theorem factory (h : s.Alike t) (ref : FactoryRef) : s.factory ref = t.factory ref := by
  unfold System.factory
  rw [h.configuration, h.standalone]

theorem setFactory (h : s.Alike t) (ref : FactoryRef) (f : MapperFactory) :
    (s.setFactory ref f).Alike (t.setFactory ref f) := by
  cases ref with
  | registered type =>
    refine ⟨?_, h.standalone, h.opened, h.shared, h.sessions⟩
    unfold System.setFactory
    dsimp only
    rw [h.configuration]
  | standalone index =>
    exact ⟨h.configuration, congrArg (List.set · index f) h.standalone, h.opened, h.shared,
      h.sessions⟩

theorem modifySource (h : s.Alike t) (f : DataSource → DataSource) :
    (s.modifySource f).Alike (t.modifySource f) :=
  ⟨h.configuration, h.standalone, h.opened,
    congrArg (fun shared => { shared with source := f shared.source }) h.shared, h.sessions⟩

/-! ## Steps -/

theorem openSession (h : s.Alike t) (mode : Option Bool) :
    (s.openSession mode).1 = (t.openSession mode).1 ∧
      (s.openSession mode).2.Alike (t.openSession mode).2 := by
  unfold System.openSession
  dsimp only
  rw [h.shared, h.configuration, h.opened]
  split_ifs
  · exact ⟨rfl, h⟩
  · obtain ⟨_, hstandalone, _, _, hsessions⟩ := h.insert t.opened t.shared (.refl _)
    exact ⟨rfl, rfl, hstandalone, rfl, rfl, hsessions⟩

theorem dropSession (h : s.Alike t) (id : Nat) :
    (s.dropSession id).1 = (t.dropSession id).1 ∧
      (s.dropSession id).2.Alike (t.dropSession id).2 := by
  have hsession := h.sessions id
  unfold System.dropSession
  generalize s.sessions.get? id = found at hsession
  generalize t.sessions.get? id = found' at hsession
  cases hsession with
  | none => exact ⟨rfl, h⟩
  | some hrelated =>
    dsimp only
    rw [h.shared, hrelated.shared_drop]
    exact ⟨rfl, h.erase id _⟩

theorem call (h : s.Alike t) (id : Nat) (call : SessionCall) :
    (s.call id call).1 = (t.call id call).1 ∧ (s.call id call).2.Alike (t.call id call).2 := by
  have hsession := h.sessions id
  unfold System.call
  generalize s.sessions.get? id = found at hsession
  generalize t.sessions.get? id = found' at hsession
  cases hsession with
  | none => exact ⟨rfl, h⟩
  | some hrelated =>
    have hcatalog := congrArg Configuration.toCatalog h.configuration
    dsimp only
    rw [h.shared, hcatalog]
    obtain ⟨hanswer, hafter, hshared⟩ :=
      hrelated.perform_lockstep t.configuration.toCatalog t.shared call
    rw [hanswer, hshared]
    exact ⟨rfl, h.insert id _ hafter⟩

theorem step (h : s.Alike t) (step : Step) :
    (s.step step).1 = (t.step step).1 ∧ (s.step step).2.Alike (t.step step).2 := by
  cases step with
  | openSession mode => exact h.openSession mode
  | dropSession id => exact h.dropSession id
  | call id call => exact h.call id call
  | setRows statement rows => exact ⟨rfl, h.modifySource fun d => d.setRows statement rows⟩
  | setAffected statement n => exact ⟨rfl, h.modifySource fun d => d.setAffected statement n⟩
  | fail point => exact ⟨rfl, h.modifySource fun d => d.fail point⟩
  | heal point => exact ⟨rfl, h.modifySource fun d => d.heal point⟩

/-! ## Actions -/

theorem leave (h : s.Alike t) (proxy : MapperProxy) {st st' : MapperState}
    (hst : MapperState.Alike st st') : (s.leave proxy st).Alike (t.leave proxy st') := by
  unfold System.leave
  rw [hst.factory, hst.shared]
  have hset := (h.setFactory proxy.factory st'.factory).insert proxy.session st'.shared hst.session
  revert hset
  cases proxy.factory <;> exact id

theorem invoke (h : s.Alike t) (proxy : MapperProxy) (method : String) (args : List Arg)
    (room : Nat) :
    s.answer (.invoke proxy method args room) = t.answer (.invoke proxy method args room) ∧
      (s.act (.invoke proxy method args room)).Alike
        (t.act (.invoke proxy method args room)) := by
  have hsession := h.sessions proxy.session
  have hcatalog := congrArg Configuration.toCatalog h.configuration
  unfold answer System.act System.invoke onMapper
  dsimp only
  rw [h.factory, hcatalog, h.shared]
  generalize s.sessions.get? proxy.session = found at hsession
  generalize t.sessions.get? proxy.session = found' at hsession
  cases hsession with
  | none => exact ⟨rfl, h⟩
  | @some session session' hrelated =>
    dsimp only [Option.map_some]
    cases t.factory proxy.factory with
    | error cause => exact ⟨rfl, h⟩
    | ok factory =>
      have halike : MapperState.Alike ⟨factory, session, t.shared⟩ ⟨factory, session', t.shared⟩ :=
        ⟨rfl, hrelated, rfl⟩
      obtain ⟨hanswer, hstates⟩ := MapperState.lockstep_invoke t.configuration.toCatalog proxy room
        method args halike
      exact ⟨congrArg Answer.result hanswer, h.leave proxy hstates⟩

theorem act (h : s.Alike t) (action : Action) :
    s.answer action = t.answer action ∧ (s.act action).Alike (t.act action) := by
  cases action with
  | invoke proxy method args room => exact h.invoke proxy method args room
  | event event =>
    cases event with
    | step step => exact ⟨congrArg Answer.reply (h.step step).1, (h.step step).2⟩
    | refuse r calls =>
      have hshared := congrArg
        (fun shared => { shared with regions := shared.regions.setRefusing r calls }) h.shared
      exact ⟨rfl, h.configuration, h.standalone, h.opened, hshared, h.sessions⟩

theorem acted (h : s.Alike t) (actions : List Action) :
    s.answers actions = t.answers actions ∧ (s.acted actions).Alike (t.acted actions) := by
  induction actions generalizing s t with
  | nil => exact ⟨rfl, h⟩
  | cons action rest ih =>
    obtain ⟨hanswer, hafter⟩ := h.act action
    obtain ⟨hanswers, hlast⟩ := ih hafter
    exact ⟨congrArg₂ List.cons hanswer hanswers, hlast⟩

theorem status (h : s.Alike t) (id : Nat) :
    (s.sessions.get? id).map Session.status = (t.sessions.get? id).map Session.status := by
  have hsession := h.sessions id
  generalize s.sessions.get? id = found at hsession
  generalize t.sessions.get? id = found' at hsession
  cases hsession with
  | none => rfl
  | some hrelated =>
    obtain ⟨hdirty, hclosed, htext⟩ := hrelated.status
    exact congrArg some (Prod.ext hdirty (Prod.ext hclosed htext))

end Alike

/-! ## The system after a commit that fails -/

/-- An unsealed session whose commit fails in the data source. -/
structure FailsToCommit (s : System) (a : Nat) (force : Bool) (session : Session) (e : Error) :
    Prop where
  found : s.sessions.get? a = some session
  unsealed : session.poisoned = false
  fails : (session.executor.connection.commit s.shared.source
    (session.boundaryRequired force)).1 = .error e

/-- Every course of actions is answered alike, and leaves alike what is shared and what sessions
tell of themselves. -/
structure SameCourse (s t : System) : Prop where
  answers : ∀ actions, s.answers actions = t.answers actions
  shared : ∀ actions, (s.acted actions).shared = (t.acted actions).shared
  status : ∀ actions id, ((s.acted actions).sessions.get? id).map Session.status =
    ((t.acted actions).sessions.get? id).map Session.status

theorem Alike.sameCourse (h : s.Alike t) : s.SameCourse t where
  answers actions := (h.acted actions).1
  shared actions := (h.acted actions).2.shared
  status actions id := (h.acted actions).2.status id

variable {force : Bool} {session : Session} {e : Error}

theorem FailsToCommit.alike (h : s.FailsToCommit a force session e) :
    (s.step (.call a (.commit force))).2.Alike s := by
  obtain ⟨_, hsession, hshared⟩ := Session.perform_of_failed_commit h.unsealed h.fails
    s.configuration.toCatalog
  unfold System.step System.call
  dsimp only
  rw [h.found]
  refine ⟨rfl, rfl, rfl, hshared, fun id => ?_⟩
  dsimp only
  rw [Table.get?_insert]
  split_ifs with hid
  · subst hid
    rw [h.found]
    exact .some hsession
  · cases s.sessions.get? id with
    | none => exact .none
    | some other => exact .some (.refl other)

/-- A commit that fails in the data source is answered with its error. It changes nothing that is
shared, nor what its session has staged, nor whether the session is dirty; and whatever is done
afterwards, by whichever session or mapper, goes as if there had been no such commit. So once the
source takes commits again, another try publishes what the first one would have. -/
theorem failed_commit_goes_unnoticed (h : s.FailsToCommit a force session e) :
    let t := (s.step (.call a (.commit force))).2
    (s.step (.call a (.commit force))).1 = .answered (.error (.error e)) ∧
      t.shared = s.shared ∧
      (∃ session', t.sessions.get? a = some session' ∧
        session'.executor.work = session.executor.work ∧
        session'.executor.isClosed = session.executor.isClosed ∧
        session'.dirty = session.dirty ∧ session'.autoCommit = session.autoCommit ∧
        session'.poisoned = session.poisoned) ∧
      t.SameCourse s := by
  intro t
  obtain ⟨hanswer, hafter, hshared⟩ := Session.perform_of_failed_commit h.unsealed h.fails
    s.configuration.toCatalog
  have hreply : (s.step (.call a (.commit force))).1 = .answered (.error (.error e)) := by
    rw [(step_call h.found _).1, hanswer]
  exact ⟨hreply, h.alike.shared,
    ⟨_, get?_call h.found _, hafter.executor.work_eq, hafter.executor.connection.closed,
      hafter.dirty, hafter.autoCommit, hafter.poisoned⟩, h.alike.sameCourse⟩

/-- A row is staged, the commit fails, and the second try publishes the row. -/
theorem second_try_publishes :
    let s := (ofOneRegion [.int 1]).after [.step (.openSession none),
      .step (.call 0 (.selectList "find" .null .all)), .step (.fail .commit)]
    let t := (s.step (.call 0 (.commit true))).2
    let again : List Action :=
      [.event (.step (.heal .commit)), .event (.step (.call 0 (.commit true)))]
    (∃ session, s.FailsToCommit 0 true session (DataSource.failure .commit)) ∧
      t.SameCourse s ∧
      t.shared.regions.contents users findKey = none ∧
      (t.acted again).shared.regions.contents users findKey = some [.int 1] := by
  intro s t again
  have hfails : ∃ session, s.FailsToCommit 0 true session (DataSource.failure .commit) :=
    ⟨_, rfl, rfl, rfl⟩
  obtain ⟨session, h⟩ := hfails
  exact ⟨⟨session, h⟩, (failed_commit_goes_unnoticed h).2.2.2, by decide +kernel,
    by decide +kernel⟩

end System

end DataMapper
