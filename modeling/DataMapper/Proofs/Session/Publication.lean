import DataMapper.Proofs.Executor.Restaged
import DataMapper.Proofs.Session.Requests
/-!
# Publication by sessions

A session publishes what it has staged by a commit that reaches the data source, and by a close or
an end with nothing to roll back. No other call of a session changes the entries of a region or
shows other sessions what is staged.
-/

namespace DataMapper

namespace Session

variable {s t : Session} {catalog : Catalog} {shared shared' : Shared} {call : SessionCall}

/-- The call publishes what is staged. -/
def Publishes (s : Session) (source : DataSource) : SessionCall → Prop
  | .commit force =>
    s.poisoned = false ∧
      (s.executor.connection.commit source (s.boundaryRequired force)).1 = .ok true
  | .close => s.poisoned = false ∧ s.boundaryRequired false = false
  | _ => False

/-- The end of the session publishes what is staged. -/
def PublishesAtEnd (s : Session) : Prop :=
  s.executor.isClosed = false ∧ s.boundaryRequired false = false

/-! ## Requests -/

theorem eq_of_unsealed {request request' : ExecutorCall} (h : s.unsealed request = .ok request') :
    s.poisoned = false ∧ request' = request := by
  unfold unsealed at h
  split_ifs at h with hpoisoned
  · cases h
    exact ⟨by simpa using hpoisoned, rfl⟩

theorem unsealed_eq (h : s.poisoned = false) (request : ExecutorCall) :
    s.unsealed request = .ok request := by
  unfold unsealed
  rw [h]
  rfl

theorem exists_of_named {id : String} {request : MappedStatement → ExecutorCall}
    {request' : ExecutorCall} (h : s.named catalog id request = .ok request') :
    ∃ statement, catalog.statement id = .ok statement ∧ request' = request statement := by
  unfold named at h
  cases hstatement : catalog.statement id with
  | error e => simp [hstatement] at h
  | ok statement =>
    rw [hstatement] at h
    exact ⟨statement, rfl, (eq_of_unsealed h).2⟩

theorem publishes_of_request {request : ExecutorCall}
    (hrequest : s.request catalog call = .ok request) {source : DataSource}
    (h : request.Publishes s.executor source) : s.Publishes source call := by
  cases call with
  | commit force =>
    obtain ⟨hpoisoned, rfl⟩ := eq_of_unsealed hrequest
    exact ⟨hpoisoned, h⟩
  | close =>
    obtain ⟨hpoisoned, rfl⟩ := eq_of_unsealed hrequest
    exact ⟨hpoisoned, h⟩
  | rollback force =>
    obtain ⟨_, rfl⟩ := eq_of_unsealed hrequest
    exact h
  | flushStatements =>
    obtain ⟨_, rfl⟩ := eq_of_unsealed hrequest
    exact h
  | clearCache =>
    obtain ⟨_, rfl⟩ := eq_of_unsealed hrequest
    exact h
  | _ =>
    obtain ⟨statement, _, rfl⟩ := exists_of_named hrequest
    exact h

theorem exists_request_of_publishes {source : DataSource} (h : s.Publishes source call)
    (catalog : Catalog) :
    ∃ request, s.request catalog call = .ok request ∧ request.Publishes s.executor source := by
  cases call with
  | commit force => exact ⟨_, unsealed_eq h.1 _, h.2⟩
  | close => exact ⟨_, unsealed_eq h.1 _, h.2⟩
  | _ => exact h.elim

/-! ## Entries of regions -/

theorem sameEntries_perform (s : Session) (catalog : Catalog) (shared : Shared)
    (h : ¬ s.Publishes shared.source call) :
    (s.perform catalog shared call).2.2.regions.SameEntries shared.regions := by
  rw [perform_eq]
  cases hrequest : s.request catalog call with
  | error e => exact .refl shared.regions
  | ok request =>
    exact s.executor.sameEntries_perform shared fun hp => h (publishes_of_request hrequest hp)

theorem sameEntries_drop (s : Session) (shared : Shared) (h : ¬ s.PublishesAtEnd) :
    (s.drop shared).regions.SameEntries shared.regions := by
  unfold drop
  split_ifs with hclosed
  · exact .refl shared.regions
  · cases hrequired : s.boundaryRequired false with
    | false => exact absurd ⟨by simpa using hclosed, hrequired⟩ h
    | true =>
      rw [s.executor.regions_forced_close]
      exact .refl shared.regions

/-! ## Sessions over related executors -/

/-- The same flags over related executors. -/
structure Related (R : Executor → Executor → Prop) (s t : Session) : Prop where
  executor : R s.executor t.executor
  autoCommit : s.autoCommit = t.autoCommit
  dirty : s.dirty = t.dirty
  poisoned : s.poisoned = t.poisoned

variable {R : Executor → Executor → Prop}

theorem Related.boundaryRequired (h : Related R s t) (force : Bool) :
    s.boundaryRequired force = t.boundaryRequired force := by
  unfold Session.boundaryRequired
  rw [h.autoCommit, h.dirty]

theorem Related.request (h : Related R s t) (catalog : Catalog) (call : SessionCall) :
    s.request catalog call = t.request catalog call := by
  have hunsealed : ∀ request, s.unsealed request = t.unsealed request := by
    intro request
    unfold unsealed
    rw [h.poisoned]
  have hnamed : ∀ id request, s.named catalog id request = t.named catalog id request := by
    intro id request
    unfold named
    cases catalog.statement id with
    | error e => rfl
    | ok statement => exact hunsealed (request statement)
  unfold Session.request
  simp only [hunsealed, hnamed, h.boundaryRequired]

theorem Related.after (h : Related R s t) {R' : Executor → Executor → Prop} {x y : Executor}
    (hx : R' x y) {outcome outcome' : Outcome ExecutorReply}
    (hbroke : outcome.broke = outcome'.broke)
    (hdirty : call.dirtyAfter outcome s.dirty = call.dirtyAfter outcome' s.dirty) :
    Related R' (s.after call outcome x) (t.after call outcome' y) := by
  refine ⟨hx, h.autoCommit, ?_, ?_⟩
  · unfold Session.after
    dsimp only
    rw [hdirty, h.dirty]
  · unfold Session.after
    dsimp only
    rw [hbroke, h.poisoned]

/-- A select leaves the session as written as it was. -/
theorem dirtyAfter_of_query {statement : MappedStatement} {parameter : Value} {bounds : RowBounds}
    {handler : Option Handler}
    (h : s.request catalog call = .ok (.query statement parameter bounds handler))
    (outcome : Outcome ExecutorReply) (before : Bool) :
    call.dirtyAfter outcome before = before := by
  cases call with
  | insert id parameter => cases (exists_of_named h).choose_spec.2
  | update id parameter => cases (exists_of_named h).choose_spec.2
  | delete id parameter => cases (exists_of_named h).choose_spec.2
  | commit force => cases (eq_of_unsealed h).2
  | rollback force => cases (eq_of_unsealed h).2
  | close => cases (eq_of_unsealed h).2
  | _ => rfl

theorem Related.perform_alike (h : Related Executor.Alike s t) (hshared : shared.Alike shared')
    (catalog : Catalog) (call : SessionCall) :
    (s.perform catalog shared call).1 = (t.perform catalog shared' call).1 ∧
      Related Executor.Alike (s.perform catalog shared call).2.1
        (t.perform catalog shared' call).2.1 ∧
      (s.perform catalog shared call).2.2.Alike (t.perform catalog shared' call).2.2 := by
  rw [perform_eq, perform_eq, h.request]
  cases t.request catalog call with
  | error e => exact ⟨rfl, h, hshared⟩
  | ok request =>
    obtain ⟨hanswer, hexecutors, hafter⟩ := h.executor.perform hshared request
    have hbroke := congrArg Outcome.broke hanswer
    have hdirty := congrArg (call.dirtyAfter · s.dirty) hanswer
    exact ⟨congrArg (Except.bind · call.answer) hanswer, h.after hexecutors hbroke hdirty, hafter⟩

/-- Unless the call publishes, nothing but its answer can depend on what is staged. -/
theorem Related.perform_restaged (h : Related Executor.Restaged s t)
    (hshared : shared.Alike shared') (catalog : Catalog)
    (hcall : ¬ s.Publishes shared.source call) :
    Related Executor.Restaged (s.perform catalog shared call).2.1
        (t.perform catalog shared' call).2.1 ∧
      (s.perform catalog shared call).2.2.Alike (t.perform catalog shared' call).2.2 := by
  rw [perform_eq, perform_eq, ← h.request]
  cases hrequest : s.request catalog call with
  | error e => exact ⟨h, hshared⟩
  | ok request =>
    have hveiled := h.executor.perform hshared
      fun hp => hcall (publishes_of_request hrequest hp)
    have hdirty : call.dirtyAfter (s.executor.perform shared request).1 s.dirty =
        call.dirtyAfter (t.executor.perform shared' request).1 s.dirty := by
      rcases hveiled.answer with ⟨statement, parameter, bounds, handler, rfl⟩ | hanswer
      · rw [dirtyAfter_of_query hrequest, dirtyAfter_of_query hrequest]
      · rw [hanswer]
    exact ⟨h.after hveiled.executors hveiled.broke hdirty, hveiled.shared⟩

theorem Related.drop_alike (h : Related Executor.Alike s t) (hshared : shared.Alike shared') :
    (s.drop shared).Alike (t.drop shared') := by
  have hclosed : s.executor.isClosed = t.executor.isClosed := h.executor.connection.closed
  unfold drop
  rw [hclosed, h.boundaryRequired]
  split_ifs
  · exact hshared
  · exact (h.executor.close hshared _).shared

theorem Related.drop_restaged (h : Related Executor.Restaged s t)
    (hshared : shared.Alike shared') (hend : ¬ s.PublishesAtEnd) :
    (s.drop shared).Alike (t.drop shared') := by
  have hclosed : s.executor.isClosed = t.executor.isClosed := h.executor.connection.closed
  unfold drop
  rw [← hclosed, ← h.boundaryRequired]
  split_ifs with hopen
  · exact hshared
  · have hforced : ¬ (ExecutorCall.close (s.boundaryRequired false)).Publishes s.executor
        shared.source := fun hp => hend ⟨by simpa using hopen, hp⟩
    exact (h.executor.perform hshared hforced).shared

end Session

end DataMapper
