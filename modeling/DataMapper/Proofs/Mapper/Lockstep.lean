import DataMapper.Proofs.Executor.Remembered
import DataMapper.Proofs.Mapper.Dispatch
import DataMapper.Proofs.Session.Publication
/-!
# Sessions and mappers in lockstep

Two sessions over alike executors and one shared state answer every call alike, and go on over one
shared state. So do two mappers that are bound to them, however their default bodies call each
other.
-/

namespace DataMapper

namespace Session

variable {s t : Session} {shared : Shared} {α : Type}

/-- One answer and one shared state, and sessions that are alike. -/
structure Lockstep (p q : Result α) : Prop where
  answer : p.1 = q.1
  sessions : Related Executor.Alike p.2.1 q.2.1
  shared : p.2.2 = q.2.2

theorem Related.shared_perform (h : Related Executor.Alike s t) (catalog : Catalog)
    (shared : Shared) (call : SessionCall) :
    (s.perform catalog shared call).2.2 = (t.perform catalog shared call).2.2 := by
  rw [perform_eq, perform_eq, h.request]
  cases t.request catalog call with
  | error e => rfl
  | ok request => exact h.executor.shared_perform shared request

theorem Related.perform_lockstep (h : Related Executor.Alike s t) (catalog : Catalog)
    (shared : Shared) (call : SessionCall) :
    Lockstep (s.perform catalog shared call) (t.perform catalog shared call) := by
  obtain ⟨hanswer, hsessions, _⟩ := h.perform_alike (.refl shared) catalog call
  exact ⟨hanswer, hsessions, h.shared_perform catalog shared call⟩

theorem Related.shared_drop (h : Related Executor.Alike s t) (shared : Shared) :
    s.drop shared = t.drop shared := by
  have hclosed : s.executor.isClosed = t.executor.isClosed := h.executor.connection.closed
  unfold drop
  rw [hclosed, h.boundaryRequired]
  split_ifs
  · rfl
  · exact h.executor.shared_close shared _

theorem Related.refl (s : Session) : Related Executor.Alike s s :=
  ⟨.refl s.executor, rfl, rfl, rfl⟩

/-- What a session tells of itself. -/
theorem Related.status (h : Related Executor.Alike s t) :
    s.isDirty = t.isDirty ∧ s.isClosed = t.isClosed ∧ s.inspect = t.inspect := by
  have hclosed : s.executor.isClosed = t.executor.isClosed := h.executor.connection.closed
  unfold isDirty isClosed inspect
  rw [h.poisoned, h.dirty, h.autoCommit, hclosed]
  exact ⟨rfl, rfl, rfl⟩

/-- A commit that fails in the data source leaves the session and what is shared as they were, but
for what the connection remembers. -/
theorem perform_of_failed_commit {e : Error} {force : Bool} (hsealed : s.poisoned = false)
    (hfails : (s.executor.connection.commit shared.source (s.boundaryRequired force)).1 = .error e)
    (catalog : Catalog) :
    (s.perform catalog shared (.commit force)).1 = .error (.error e) ∧
      Related Executor.Alike (s.perform catalog shared (.commit force)).2.1 s ∧
      (s.perform catalog shared (.commit force)).2.2 = shared := by
  obtain ⟨hanswer, hexecutor, hshared⟩ := s.executor.commit_of_error hfails
  unfold perform commit guarded
  dsimp only
  rw [hsealed, if_neg Bool.false_ne_true]
  generalize s.executor.commit (s.boundaryRequired force) shared = p at hanswer hexecutor hshared
  obtain ⟨made, x, after⟩ := p
  obtain rfl : made = .error e := hanswer
  exact ⟨rfl, ⟨hexecutor, rfl, rfl, hsealed.symm⟩, hshared⟩

end Session

namespace MapperState

variable {α β : Type} {catalog : Catalog} {session session' : Session} {shared : Shared}

/-- The same factory and shared state, and sessions that are alike. -/
structure Alike (st st' : MapperState) : Prop where
  factory : st.factory = st'.factory
  session : Session.Related Executor.Alike st.session st'.session
  shared : st.shared = st'.shared

/-- One answer, and states that are alike. -/
structure Lockstep (p q : Outcome α × MapperState) : Prop where
  answer : p.1 = q.1
  states : Alike p.2 q.2

theorem lockstep_ofSession {st st' : MapperState} (hst : Alike st st') (wrap : α → β)
    {p q : Session.Result α} (h : Session.Lockstep p q) :
    Lockstep (st.ofSession wrap p) (st'.ofSession wrap q) :=
  ⟨congrArg (Except.map wrap) h.answer, hst.factory, h.sessions, h.shared⟩

theorem lockstep_execute (h : Session.Related Executor.Alike session session')
    (m : MapperMethod) (args : List Arg) (shared : Shared) :
    Session.Lockstep (m.execute catalog args session shared)
      (m.execute catalog args session' shared) := by
  unfold MapperMethod.execute
  cases m.plan args with
  | error e => exact ⟨rfl, h, rfl⟩
  | ok call =>
    obtain ⟨hanswer, hsessions, hshared⟩ := h.perform_lockstep catalog shared call
    exact ⟨congrArg (Except.map m.shape) hanswer, hsessions, hshared⟩

/-- What follows a call is told one answer, and goes on from states that are alike. -/
theorem Lockstep.resume {p q : Outcome α × MapperState}
    {next next' : Except Error α → MapperState → Outcome β × MapperState} (h : Lockstep p q)
    (hnext : ∀ given st st', Alike st st' → Lockstep (next given st) (next' given st')) :
    Lockstep (resume p next) (resume q next') := by
  obtain ⟨outcome, st⟩ := p
  obtain ⟨outcome', st'⟩ := q
  obtain rfl : outcome = outcome' := h.answer
  cases outcome with
  | ok a => exact hnext (.ok a) st st' h.states
  | error fault =>
    cases fault with
    | error e => exact hnext (.error e) st st' h.states
    | handlerBroke => exact ⟨rfl, h.states⟩
    | tooDeep => exact ⟨rfl, h.states⟩

/-- A script sees of the states only what they have in common. -/
theorem lockstep_carryOut
    {dispatch : String → List Arg → MapperState → Outcome MapperResult × MapperState}
    (hdispatch : ∀ method args st st', Alike st st' →
      Lockstep (dispatch method args st) (dispatch method args st'))
    (script : Script) {st st' : MapperState} (h : Alike st st') :
    Lockstep (carryOut catalog dispatch script st) (carryOut catalog dispatch script st') := by
  induction script generalizing st st' with
  | answer result => exact ⟨rfl, h⟩
  | invoke method args next ih =>
    exact (hdispatch method args st st' h).resume fun given _ _ hafter => ih given hafter
  | call call next ih =>
    have hcall := h.session.perform_lockstep catalog st.shared call
    unfold carryOut
    rw [← h.shared]
    exact (lockstep_ofSession h id hcall).resume fun given _ _ hafter => ih given hafter
  | observe next ih =>
    unfold carryOut
    rw [h.shared]
    exact ih catalog st'.shared.journal h

/-- Only calls of the session can tell two dispatches apart, and they do not. -/
theorem lockstep_invoke (catalog : Catalog) (proxy : MapperProxy) (room : Nat) (method : String)
    (args : List Arg) {st st' : MapperState} (h : Alike st st') :
    Lockstep (invoke catalog proxy room method args st)
      (invoke catalog proxy room method args st') := by
  -- Default bodies have their calls dispatched with less room.
  induction room using Nat.strong_induction_on generalizing method args st st' with
  | _ room ih =>
    obtain ⟨asked, session, shared⟩ := st
    obtain ⟨_, session', _⟩ := st'
    obtain ⟨rfl, hsession, rfl⟩ := h
    unfold invoke
    dsimp only
    cases proxy.objectMethod? asked.interface.name method args with
    | some result => exact ⟨rfl, rfl, hsession, rfl⟩
    | none =>
      dsimp only
      generalize asked.invoker catalog method = found
      obtain ⟨invoker, factory⟩ := found
      have hresolved : Alike ⟨factory, session, shared⟩ ⟨factory, session', shared⟩ :=
        ⟨rfl, hsession, rfl⟩
      cases invoker with
      | error cause => exact ⟨rfl, hresolved⟩
      | ok invoker =>
        cases invoker with
        | plain m =>
          exact lockstep_ofSession hresolved id (lockstep_execute hsession m args shared)
        | default body =>
          dsimp only
          cases room with
          | zero => exact ⟨rfl, hresolved⟩
          | succ room =>
            have hdispatch := fun method args st st' (h : Alike st st') =>
              ih room (Nat.lt_succ_self room) method args h
            exact lockstep_carryOut hdispatch _ hresolved

end MapperState

end DataMapper
