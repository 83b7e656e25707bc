import DataMapper.Proofs.Executor.Selects
import DataMapper.Proofs.Session.Closing
import DataMapper.Proofs.Session.Units
/-!
# Sealed sessions

A handler that breaks down seals its session. From then on the session turns every call away, and
nothing changes any more but by its end, which closes the connection that is still open.
-/

namespace DataMapper

/-- The statement that a call names. -/
def SessionCall.named? : SessionCall → Option String
  | .selectOne id _ | .selectList id _ _ | .selectMap id _ _ _ | .selectCursor id _ _
  | .select id _ _ _ | .insert id _ | .update id _ | .delete id _ => some id
  | .commit _ | .rollback _ | .flushStatements | .close | .clearCache => none

/-- Why a sealed session turns a call away. An unknown statement is reported as such. -/
def SessionCall.refusal (call : SessionCall) (catalog : Catalog) : Error :=
  match call.named? with
  | none => Session.poisonedError
  | some id =>
    if catalog.hasStatement id then Session.poisonedError
    else .binding (.statementNotFound id)

namespace Executor

/-- A handler breaks down only while the connection is open. -/
theorem isClosed_of_broken_queryWithKey (x : Executor) {statement : MappedStatement}
    {parameter : Value} {bounds : RowBounds} {handler : Option Handler} {key : CacheKey}
    {s : Shared}
    (h : (x.queryWithKey statement parameter bounds handler key s).1 = .error .handlerBroke) :
    x.isClosed = false := by
  induction x generalizing handler s with
  | direct c =>
    cases hclosed : c.closed with
    | false => exact hclosed
    | true =>
      unfold queryWithKey at h
      rw [Connection.select_of_closed hclosed] at h
      cases h
  | caching work delegate ih =>
    have hselects :=
      selects_queryWithKey work delegate statement parameter bounds handler key s
    generalize (caching work delegate).queryWithKey statement parameter bounds handler key s =
      result at h hselects
    cases hselects with
    | passed => exact ih h
    | unfetched _ _ hfetch =>
      cases h
      exact ih (congrArg Prod.fst hfetch)
    | _ => cases h

theorem isClosed_of_broken_query (x : Executor) {statement : MappedStatement}
    {parameter : Value} {bounds : RowBounds} {handler : Option Handler} {s : Shared}
    (h : (x.query statement parameter bounds handler s).1 = .error .handlerBroke) :
    x.isClosed = false := by
  unfold query at h
  split at h
  · cases h
  · exact x.isClosed_of_broken_queryWithKey h

end Executor

namespace Session

variable {s : Session} {catalog : Catalog} {shared : Shared} {call : SessionCall}

theorem unsealed_of_sealed (h : s.poisoned = true) (request : ExecutorCall) :
    s.unsealed request = .error poisonedError := by
  unfold unsealed
  rw [h, if_pos rfl]

theorem named_of_sealed (h : s.poisoned = true) (catalog : Catalog) (id : String)
    (request : MappedStatement → ExecutorCall) :
    s.named catalog id request =
      .error (if catalog.hasStatement id then poisonedError
        else .binding (.statementNotFound id)) := by
  unfold named Catalog.statement Catalog.hasStatement NameMap.contains
  cases catalog.statements.get? id with
  | none => rfl
  | some statement => exact unsealed_of_sealed h _

theorem request_of_sealed (h : s.poisoned = true) (catalog : Catalog) (call : SessionCall) :
    s.request catalog call = .error (call.refusal catalog) := by
  cases call with
  | commit force => exact unsealed_of_sealed h _
  | rollback force => exact unsealed_of_sealed h _
  | flushStatements => exact unsealed_of_sealed h _
  | close => exact unsealed_of_sealed h _
  | clearCache => exact unsealed_of_sealed h _
  | _ => exact named_of_sealed h catalog _ _

/-- A sealed session turns every call away. -/
theorem perform_of_sealed (h : s.poisoned = true) (catalog : Catalog) (shared : Shared)
    (call : SessionCall) :
    s.perform catalog shared call = (.error (.error (call.refusal catalog)), s, shared) := by
  rw [perform_eq, request_of_sealed h]
  rfl

/-- The handler of a select breaks down: the connection was open, and the session is sealed. -/
theorem sealed_of_broken_select {id : String} {parameter : Value} {bounds : RowBounds}
    {handler : Handler}
    (h : (s.perform catalog shared (.select id parameter bounds handler)).1 =
      .error .handlerBroke) :
    s.executor.isClosed = false ∧
      (s.perform catalog shared (.select id parameter bounds handler)).2.1.poisoned = true := by
  rw [perform_eq] at h ⊢
  cases hrequest : s.request catalog (.select id parameter bounds handler) with
  | error e =>
    rw [hrequest] at h
    cases h
  | ok request =>
    obtain ⟨statement, _, rfl⟩ := exists_of_named hrequest
    rw [hrequest] at h
    unfold served Executor.perform at h
    dsimp only at h
    have hbroke : (s.executor.query statement parameter bounds (some handler) shared).1 =
        .error .handlerBroke := by
      generalize (s.executor.query statement parameter bounds (some handler) shared).1 =
        outcome at h
      cases outcome with
      | ok rows => cases h
      | error fault => exact congrArg Except.error (Except.error.inj h)
    refine ⟨s.executor.isClosed_of_broken_query hbroke, ?_⟩
    unfold served after Executor.perform
    dsimp only
    rw [hbroke]
    rfl

/-! ## The end of an open session -/

/-- What the end of an open session makes of what is shared. The connection is closed, after a
rollback if one is forced; without one, all that is staged is published. -/
structure Ends (s : Session) (forced : Bool) (shared shared' : Shared) : Prop where
  closes : shared'.source.closes = shared.source.closes + 1
  rollbacks : shared'.source.rollbacks =
    shared.source.rollbacks + if forced && !shared.source.fails .rollback then 1 else 0
  regions : shared'.regions =
    if forced then shared.regions else (s.executor.work.commitAll shared.regions).2.2

theorem ends_drop {cached : Bool} (hx : s.executor.Simple cached)
    (hopen : s.executor.isClosed = false) (shared : Shared) :
    s.Ends (s.boundaryRequired false) shared (s.drop shared) := by
  have hsource := s.source_drop shared
  rw [sourceClosed_of_open hopen] at hsource
  refine ⟨?_, ?_, ?_⟩
  · rw [hsource]
  · have hopen' : s.executor.connection.closed = false := hopen
    rw [hsource]
    unfold Connection.rollback
    cases s.boundaryRequired false <;> cases shared.source.fails .rollback <;> simp [hopen']
  · cases hrequired : s.boundaryRequired false with
    | false =>
      rw [regions_drop_of_publishes hx ⟨hopen, hrequired⟩, UnitOfWork.commitAll_snd]
      rfl
    | true =>
      unfold drop
      rw [hopen, hrequired]
      exact s.executor.regions_forced_close shared

end Session

end DataMapper
