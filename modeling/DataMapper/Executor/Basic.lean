import DataMapper.Executor.Connection
import DataMapper.Staging.UnitOfWork
/-!
# Executors

An executor runs statements inside one unit of work, on a connection or through a cache in front of
another executor. What is cached stays staged until the executor below has really committed.
-/

namespace DataMapper

open Text

/-- What all executors share. -/
structure Shared where
  regions : RegionStore := .empty
  source : DataSource := .empty
  journal : Journal := []

/-- Why a call did not return. A handler that breaks down takes the call with it, and so do method
bodies that call each other deeper than there is room for. -/
inductive Fault where
  | error (e : Error)
  | handlerBroke
  | tooDeep
  deriving DecidableEq, Repr

abbrev Outcome := Except Fault

/-- An error as the outcome of a call. -/
def Outcome.ofExcept {α : Type} : Except Error α → Outcome α
  | .ok a => .ok a
  | .error e => .error (.error e)

inductive Executor where
  | direct (connection : Connection)
  | caching (work : UnitOfWork) (delegate : Executor)

namespace Executor

variable {s : Shared}

def connection : Executor → Connection
  | direct c => c
  | caching _ delegate => delegate.connection

/-- The environment that enters every key. -/
def environment (x : Executor) : String :=
  x.connection.environment

def isClosed (x : Executor) : Bool :=
  x.connection.closed

/-- Whether the connection has answered a key since its last write or boundary. -/
def isCached (x : Executor) (key : CacheKey) : Bool :=
  x.connection.answered.contains key

def clearLocalCache : Executor → Executor
  | direct c => direct c.forget
  | caching work delegate => caching work delegate.clearLocalCache

def keyFor (x : Executor) (statement : MappedStatement) (parameter : Value)
    (bounds : RowBounds) : Except BindingError CacheKey :=
  CacheKey.forStatement statement parameter bounds x.environment

/-- Hands rows to the handler, if there is one, and returns them otherwise. -/
def deliver (handler : Option Handler) (rows : Rows) (journal : Journal) :
    Outcome Rows × Journal :=
  match handler with
  | none => (.ok rows, journal)
  | some h =>
    match h.take rows journal with
    | (true, journal) => (.ok [], journal)
    | (false, journal) => (.error .handlerBroke, journal)

/-- Marks the region of a flushing statement to be cleared. -/
def flushIfRequired (work : UnitOfWork) (statement : MappedStatement) :
    Except Error UnitOfWork :=
  match statement.cache with
  | none => .ok work
  | some region => if statement.flushCacheRequired then work.clear region else .ok work

/-- Runs a select under a given key. A cache answers for a statement that uses its region, unless
the rows go to a handler; what the delegate answers then is staged. -/
def queryWithKey : Executor → MappedStatement → Value → RowBounds → Option Handler → CacheKey →
    Shared → Outcome Rows × Executor × Shared
  | direct c, statement, parameter, bounds, handler, key, shared =>
    match c.select shared.source statement parameter bounds with
    | (.error e, source) => (.error (.error e), direct c, { shared with source })
    | (.ok rows, source) =>
      let (result, journal) := deliver handler rows shared.journal
      (result, direct (c.remember key), { shared with source, journal })
  | caching work delegate, statement, parameter, bounds, handler, key, shared =>
    let passThrough (work : UnitOfWork) : Outcome Rows × Executor × Shared :=
      let (result, delegate, shared) :=
        delegate.queryWithKey statement parameter bounds handler key shared
      (result, caching work delegate, shared)
    match statement.cache with
    | none => passThrough work
    | some region =>
      match flushIfRequired work statement with
      | .error e => (.error (.error e), caching work delegate, shared)
      | .ok work =>
        if !statement.useCache || handler.isSome then passThrough work
        else if statement.hasOutParams then
          (.error (.error (.cache (.outParamsNotCacheable statement.id))),
            caching work delegate, shared)
        else
          match work.get shared.regions region key with
          | (.error e, work, regions) =>
            (.error (.error e), caching work delegate, { shared with regions })
          | (.ok (.hit rows), work, regions) =>
            (.ok rows, caching work delegate, { shared with regions })
          | (.ok .miss, work, regions) =>
            match delegate.queryWithKey statement parameter bounds none key
                { shared with regions } with
            | (.error e, delegate, shared) => (.error e, caching work delegate, shared)
            | (.ok rows, delegate, shared) =>
              match work.put region key rows with
              | .error e => (.error (.error e), caching work delegate, shared)
              | .ok work => (.ok rows, caching work delegate, shared)

theorem regions_direct_queryWithKey (c : Connection) (statement : MappedStatement)
    (parameter : Value) (bounds : RowBounds) (handler : Option Handler) (key : CacheKey)
    (s : Shared) :
    ((direct c).queryWithKey statement parameter bounds handler key s).2.2.regions =
      s.regions := by
  unfold queryWithKey
  split <;> rfl

/-- Runs a select under its own key. -/
def query (x : Executor) (statement : MappedStatement) (parameter : Value) (bounds : RowBounds)
    (handler : Option Handler) (shared : Shared) : Outcome Rows × Executor × Shared :=
  match x.keyFor statement parameter bounds with
  | .error e => (.error (.error (.binding e)), x, shared)
  | .ok key => x.queryWithKey statement parameter bounds handler key shared

/-- Runs a select whose rows are consumed lazily. Such rows are never cached. -/
def queryCursor : Executor → MappedStatement → Value → RowBounds → Shared →
    Except Error Rows × Executor × Shared
  | direct c, statement, parameter, bounds, shared =>
    let (result, source) := c.select shared.source statement parameter bounds
    (result, direct c, { shared with source })
  | caching work delegate, statement, parameter, bounds, shared =>
    match flushIfRequired work statement with
    | .error e => (.error e, caching work delegate, shared)
    | .ok work =>
      let (result, delegate, shared) := delegate.queryCursor statement parameter bounds shared
      (result, caching work delegate, shared)

theorem regions_queryCursor (x : Executor) (statement : MappedStatement) (parameter : Value)
    (bounds : RowBounds) (s : Shared) :
    (x.queryCursor statement parameter bounds s).2.2.regions = s.regions := by
  induction x with
  | direct c => rfl
  | caching work delegate ih =>
    unfold queryCursor
    split
    · rfl
    · exact ih

/-- Runs a write and answers with the number of affected rows. -/
def update : Executor → MappedStatement → Value → Shared → Except Error Nat × Executor × Shared
  | direct c, statement, parameter, shared =>
    let (result, c, source) := c.update shared.source statement parameter
    (result, direct c, { shared with source })
  | caching work delegate, statement, parameter, shared =>
    match flushIfRequired work statement with
    | .error e => (.error e, caching work delegate, shared)
    | .ok work =>
      let (result, delegate, shared) := delegate.update statement parameter shared
      (result, caching work delegate, shared)

theorem regions_update (x : Executor) (statement : MappedStatement) (parameter : Value)
    (s : Shared) : (x.update statement parameter s).2.2.regions = s.regions := by
  induction x with
  | direct c => rfl
  | caching work delegate ih =>
    unfold update
    split
    · rfl
    · exact ih

def flushStatements : Executor → Shared → Except Error Unit × Executor × Shared
  | direct c, shared =>
    let (result, source) := c.flush shared.source
    (result, direct c, { shared with source })
  | caching work delegate, shared =>
    let (result, delegate, shared) := delegate.flushStatements shared
    (result, caching work delegate, shared)

theorem regions_flushStatements (x : Executor) (s : Shared) :
    (x.flushStatements s).2.2.regions = s.regions := by
  induction x with
  | direct c => rfl
  | caching work delegate ih => exact ih

/-- Commits. Staged work is published if the commit has reached the data source. -/
def commit : Executor → Bool → Shared → Except Error Bool × Executor × Shared
  | direct c, required, shared =>
    let (result, c, source) := c.commit shared.source required
    (result, direct c, { shared with source })
  | caching work delegate, required, shared =>
    match delegate.commit required shared with
    | (.error e, delegate, shared) => (.error e, caching work delegate, shared)
    | (.ok false, delegate, shared) => (.ok false, caching work delegate, shared)
    | (.ok true, delegate, shared) =>
      let (result, work, regions) := work.commitAll shared.regions
      (result.map fun () => true, caching work delegate, { shared with regions })

theorem commit_of_not_made (work : UnitOfWork) {x : Executor} {required : Bool}
    (h : (x.commit required s).1 ≠ .ok true) :
    (caching work x).commit required s =
      ((x.commit required s).1, caching work (x.commit required s).2.1,
        (x.commit required s).2.2) := by
  rw [commit]
  generalize x.commit required s = p at h
  obtain ⟨made, delegate, after⟩ := p
  cases made with
  | error e => rfl
  | ok reached =>
    cases reached with
    | false => rfl
    | true => exact absurd rfl h

theorem commit_of_made (work : UnitOfWork) {x : Executor} {required : Bool}
    (h : (x.commit required s).1 = .ok true) :
    (caching work x).commit required s =
      ((work.commitAll (x.commit required s).2.2.regions).1.map fun () => true,
        caching (work.commitAll (x.commit required s).2.2.regions).2.1 (x.commit required s).2.1,
        { (x.commit required s).2.2 with
          regions := (work.commitAll (x.commit required s).2.2.regions).2.2 }) := by
  rw [commit]
  generalize x.commit required s = p at h
  obtain ⟨made, delegate, after⟩ := p
  obtain rfl : made = .ok true := h
  rfl

/-- Rolls back. A required rollback forgets staged work even if the delegate fails. -/
def rollback : Executor → Bool → Shared → Except Error Unit × Executor × Shared
  | direct c, required, shared =>
    let (result, c, source) := c.rollback shared.source required
    (result, direct c, { shared with source })
  | caching work delegate, required, shared =>
    let (result, delegate, shared) := delegate.rollback required shared
    (result, caching (if required then work.rollbackAll else work) delegate, shared)

theorem regions_rollback (x : Executor) (required : Bool) (s : Shared) :
    (x.rollback required s).2.2.regions = s.regions := by
  induction x with
  | direct c => rfl
  | caching work delegate ih => exact ih

/-- Joins the results of closing the delegate and of publishing staged work. -/
def joinClose : Except Error Unit → Except Error Unit → Except Error Unit
  | .ok (), .ok () => .ok ()
  | .error e, .ok () => .error e
  | .ok (), .error e => .error e
  | .error delegate, .error cache =>
    .error (.transaction (.compound "close" delegate.message cache.message))

theorem joinClose_ok (closed : Except Error Unit) : joinClose closed (.ok ()) = closed := by
  cases closed <;> rfl

/-- Closes. Staged work is forgotten with a forced rollback and published otherwise. -/
def close : Executor → Bool → Shared → Except Error Unit × Executor × Shared
  | direct c, forceRollback, shared =>
    let (result, c, source) := c.close shared.source forceRollback
    (result, direct c, { shared with source })
  | caching work delegate, forceRollback, shared =>
    let (published, work, regions) :=
      if forceRollback then (.ok (), work.rollbackAll, shared.regions)
      else work.commitAll shared.regions
    let (closed, delegate, shared) := delegate.close forceRollback { shared with regions }
    (joinClose closed published, caching work delegate, shared)

theorem close_caching {work published : UnitOfWork} (x : Executor) {forceRollback : Bool}
    {store : RegionStore}
    (h : (if forceRollback then (.ok (), work.rollbackAll, s.regions)
      else work.commitAll s.regions) = (.ok (), published, store)) :
    (caching work x).close forceRollback s =
      ((x.close forceRollback { s with regions := store }).1,
        caching published (x.close forceRollback { s with regions := store }).2.1,
        (x.close forceRollback { s with regions := store }).2.2) := by
  rw [close, h]
  simp only [joinClose_ok]

theorem regions_forced_close (x : Executor) (s : Shared) :
    (x.close true s).2.2.regions = s.regions := by
  induction x generalizing s with
  | direct c => rfl
  | caching work delegate ih => exact ih { s with regions := s.regions }

/-- The inspection text of a caching executor. A plain connection has none. -/
def inspect? : Executor → Option String
  | direct _ => none
  | caching work delegate =>
    some (inspectRecord "CachingExecutor"
      [("environment_id", quoted delegate.environment), ("tcm", work.inspect)])

end Executor

end DataMapper
