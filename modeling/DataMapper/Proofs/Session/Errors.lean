import DataMapper.Proofs.Executor.Errors
import DataMapper.Proofs.Session.Publication
/-!
# Errors of sessions

A call of a session fails because it is turned away, because its executor reports an error, or
because the rows of a select have another shape. A statement that is unknown or cannot be bound is
reported before anything is done.
-/

namespace DataMapper

namespace Session

variable {P : UnitOfWork → Prop} {on : RegionRef → Prop} {turnsAway : Prop} {s : Session}
  {catalog : Catalog} {shared : Shared} {call : SessionCall} {e : Error}

theorem error_of_unsealed {request : ExecutorCall} (h : s.unsealed request = .error e) :
    e = poisonedError := by
  unfold unsealed at h
  split_ifs at h
  exact (Except.error.inj h).symm

/-- A call asks for a statement by its id, or for none. -/
theorem request_cases (s : Session) (catalog : Catalog) (call : SessionCall) :
    (∃ id ask, s.request catalog call = s.named catalog id ask ∧
        ∀ statement, (ExecutorRequest.call (ask statement)).statement? = some statement) ∨
      ∃ request, s.request catalog call = s.unsealed request ∧
        (ExecutorRequest.call request).statement? = none := by
  cases call with
  | commit force => exact .inr ⟨_, rfl, rfl⟩
  | rollback force => exact .inr ⟨_, rfl, rfl⟩
  | flushStatements => exact .inr ⟨_, rfl, rfl⟩
  | close => exact .inr ⟨_, rfl, rfl⟩
  | clearCache => exact .inr ⟨_, rfl, rfl⟩
  | _ => exact .inl ⟨_, _, rfl, fun _ => rfl⟩

/-- A call is turned away by a sealed session, or because its statement is unknown. -/
theorem error_of_request (h : s.request catalog call = .error e) :
    e = poisonedError ∨ ∃ id, e = .binding (.statementNotFound id) := by
  rcases s.request_cases catalog call with ⟨id, ask, hrequest, -⟩ | ⟨request, hrequest, -⟩
  · rw [hrequest] at h
    unfold named Catalog.statement at h
    cases hstatement : catalog.statements.get? id with
    | none =>
      rw [hstatement] at h
      exact .inr ⟨id, (Except.error.inj h).symm⟩
    | some statement =>
      rw [hstatement] at h
      exact .inl (error_of_unsealed h)
  · rw [hrequest] at h
    exact .inl (error_of_unsealed h)

/-- The statement of a request is that of some id. -/
theorem statement_of_request {request : ExecutorCall} (h : s.request catalog call = .ok request)
    {statement : MappedStatement}
    (hstatement : (ExecutorRequest.call request).statement? = some statement) :
    ∃ id, catalog.statement id = .ok statement := by
  rcases s.request_cases catalog call with ⟨id, ask, hrequest, hasks⟩ | ⟨request', hrequest, hnone⟩
  · rw [hrequest] at h
    obtain ⟨found, hfound, rfl⟩ := exists_of_named h
    rw [hasks found] at hstatement
    exact ⟨id, Option.some.inj hstatement ▸ hfound⟩
  · rw [hrequest] at h
    obtain ⟨-, rfl⟩ := eq_of_unsealed h
    rw [hnone] at hstatement
    cases hstatement

/-- The reply of the executor to a call may only have another shape. -/
theorem error_of_answer {reply : ExecutorReply} (h : call.answer reply = .error (.error e)) :
    ∃ cause, e = .result cause := by
  have hshape : ∀ {α : Type} {wrap : α → SessionReply} {shape : Except ResultError α},
      (Outcome.ofShape shape).map wrap = .error (.error e) → ∃ cause, e = .result cause := by
    intro α wrap shape h
    cases shape with
    | ok a => cases h
    | error cause =>
      cases h
      exact ⟨cause, rfl⟩
  unfold SessionCall.answer at h
  split at h
  · exact hshape h
  · cases h
  · exact hshape h
  · cases h
  · cases h
  · cases h

theorem error_of_perform (h : (s.perform catalog shared call).1 = .error (.error e)) :
    s.request catalog call = .error e ∨ (∃ cause, e = .result cause) ∨
      ∃ request, s.request catalog call = .ok request ∧
        (s.executor.perform shared request).1 = .error (.error e) := by
  rw [perform_eq] at h
  cases hrequest : s.request catalog call with
  | error e' =>
    rw [hrequest] at h
    cases h
    exact .inl rfl
  | ok request =>
    rw [hrequest] at h
    unfold served at h
    dsimp only at h
    cases houtcome : (s.executor.perform shared request).1 with
    | ok reply =>
      rw [houtcome] at h
      exact .inr (.inl (error_of_answer h))
    | error fault =>
      rw [houtcome] at h
      cases h
      exact .inr (.inr ⟨request, rfl, houtcome⟩)

/-! ## Failures of binding -/

/-- Nothing has happened before a failure of binding is reported. -/
theorem perform_eq_of_binding {cause : BindingError}
    (h : (s.perform catalog shared call).1 = .error (.error (.binding cause))) :
    (s.perform catalog shared call).2 = (s, shared) := by
  rcases error_of_perform h with hrequest | ⟨cause', hresult⟩ | ⟨request, hrequest, hfailed⟩
  · rw [perform_eq, hrequest]
    rfl
  · cases hresult
  · obtain ⟨⟨statement, parameter, bounds, handler, rfl⟩, hafter⟩ :=
      Executor.perform_eq_of_binding hfailed
    have hperform : s.executor.perform shared (.query statement parameter bounds handler) =
        (.error (.error (.binding cause)), s.executor, shared) := Prod.ext hfailed hafter
    rw [perform_eq, hrequest]
    unfold served after
    dsimp only
    rw [hperform]
    dsimp only
    rw [dirtyAfter_of_query hrequest]
    rfl

/-! ## Regions that are turned away -/

theorem request_on
    (hon : ∀ id statement, catalog.statement id = .ok statement → statement.On on fun _ => True)
    {request : ExecutorCall} (h : s.request catalog call = .ok request) :
    (ExecutorRequest.call request).On on fun _ => True := by
  intro statement hstatement
  obtain ⟨id, hfound⟩ := statement_of_request h hstatement
  exact hon id statement hfound

/-- Whatever property of units of work is in custody, every call keeps. -/
theorem every_perform (h : Custody P (fun _ => True) on (fun _ => True) fun _ _ _ => True)
    (hon : ∀ id statement, catalog.statement id = .ok statement → statement.On on fun _ => True)
    (hs : s.executor.Every P) : (s.perform catalog shared call).2.1.executor.Every P := by
  rw [perform_eq]
  cases hrequest : s.request catalog call with
  | error e => exact hs
  | ok request =>
    have hserved := (h.serve (s := shared) hs trivial (request_on hon hrequest)
      fun _ _ _ _ _ _ => trivial).1
    rw [Executor.snd_serve_call] at hserved
    exact hserved

theorem not_duplicate_of_perform
    (h : Custody P (fun _ => True) on (fun _ => True) fun _ _ _ => True)
    (hknows : UnitOfWork.Knows P on False)
    (hon : ∀ id statement, catalog.statement id = .ok statement → statement.On on fun _ => True)
    (hs : s.executor.Every P) (region : String) :
    (s.perform catalog shared call).1 ≠ .error (.error (.cache (.duplicateRegion region))) := by
  intro hfailed
  rcases error_of_perform hfailed with hrequest | ⟨cause, hresult⟩ | ⟨request, hrequest, hfailed⟩
  · rcases error_of_request hrequest with he | ⟨id, he⟩ <;> cases he
  · cases hresult
  · rcases Executor.error_of_perform h hknows hs (request_on hon hrequest) hfailed with
      hreported | ⟨-, -, -, -, cause, -, -, he⟩
    · exact hreported.not_duplicate region rfl
    · cases he

end Session

end DataMapper
