import DataMapper.Proofs.Executor.Answers
import DataMapper.Proofs.Staging.Views
/-!
# Calls of executors

The calls of an executor as data, so that what holds of all of them is said once. Staged work stays
staged under every call but two: a commit that reaches the data source, and a close that does not
roll back.
-/

namespace DataMapper

inductive ExecutorCall where
  | query (statement : MappedStatement) (parameter : Value) (bounds : RowBounds)
      (handler : Option Handler)
  | queryCursor (statement : MappedStatement) (parameter : Value) (bounds : RowBounds)
  | update (statement : MappedStatement) (parameter : Value)
  | flushStatements
  | commit (required : Bool)
  | rollback (required : Bool)
  | close (forceRollback : Bool)
  | clearLocalCache
  deriving DecidableEq

/-- The answers to calls of an executor. -/
inductive ExecutorReply where
  | rows (rows : Rows)
  | count (n : Nat)
  | committed (reached : Bool)
  | done
  deriving DecidableEq

/-- Whether a handler broke down. -/
def Outcome.broke {α : Type} : Outcome α → Bool
  | .error .handlerBroke => true
  | _ => false

namespace Executor

/-- What a call makes of an executor: its outcome, the executor and the shared state. -/
abbrev Result (α : Type) := Outcome α × Executor × Shared

/-- The answer of a call in its general form. -/
def reply {α : Type} (wrap : α → ExecutorReply) (call : Except Error α × Executor × Shared) :
    Result ExecutorReply :=
  let (result, x, shared) := call
  ((Outcome.ofExcept result).map wrap, x, shared)

/-- Runs a call that is given as data. -/
def perform (x : Executor) (shared : Shared) : ExecutorCall → Result ExecutorReply
  | .query statement parameter bounds handler =>
    let (outcome, x, shared) := x.query statement parameter bounds handler shared
    (outcome.map .rows, x, shared)
  | .queryCursor statement parameter bounds =>
    reply .rows (x.queryCursor statement parameter bounds shared)
  | .update statement parameter => reply .count (x.update statement parameter shared)
  | .flushStatements => reply (fun () => .done) (x.flushStatements shared)
  | .commit required => reply .committed (x.commit required shared)
  | .rollback required => reply (fun () => .done) (x.rollback required shared)
  | .close forceRollback => reply (fun () => .done) (x.close forceRollback shared)
  | .clearLocalCache => (.ok .done, x.clearLocalCache, shared)

end Executor

/-- The commit reaches the data source, or the close does not roll back. -/
def ExecutorCall.Publishes (call : ExecutorCall) (x : Executor) (source : DataSource) : Prop :=
  match call with
  | .commit required => (x.connection.commit source required).1 = .ok true
  | .close forceRollback => forceRollback = false
  | _ => False

/-! ## Selects that pass the cache by, and selects that look up their region -/

namespace Executor

/-- The answer of the delegate, behind the cache. -/
def passed (work : UnitOfWork) (answer : Result Rows) : Result Rows :=
  (answer.1, caching work answer.2.1, answer.2.2)

theorem queryWithKey_of_uncached (work : UnitOfWork) (delegate : Executor)
    {statement : MappedStatement} (parameter : Value) (bounds : RowBounds)
    (handler : Option Handler) (key : CacheKey) (shared : Shared)
    (hcache : statement.cache = none) :
    (caching work delegate).queryWithKey statement parameter bounds handler key shared =
      passed work (delegate.queryWithKey statement parameter bounds handler key shared) := by
  rw [queryWithKey, hcache]
  rfl

theorem queryWithKey_of_passed {work flushed : UnitOfWork} (delegate : Executor)
    {statement : MappedStatement} {region : RegionRef} (parameter : Value) (bounds : RowBounds)
    {handler : Option Handler} (key : CacheKey) (shared : Shared)
    (hcache : statement.cache = some region)
    (hflush : flushIfRequired work statement = .ok flushed)
    (hpass : (!statement.useCache || handler.isSome) = true) :
    (caching work delegate).queryWithKey statement parameter bounds handler key shared =
      passed flushed (delegate.queryWithKey statement parameter bounds handler key shared) := by
  rw [queryWithKey, hcache]
  simp only [hflush, hpass, if_true]
  rfl

theorem queryWithKey_of_outParams {work flushed : UnitOfWork} (delegate : Executor)
    {statement : MappedStatement} {region : RegionRef} (parameter : Value) (bounds : RowBounds)
    (key : CacheKey) (shared : Shared) (hcache : statement.cache = some region)
    (hflush : flushIfRequired work statement = .ok flushed) (huse : statement.useCache = true)
    (hout : statement.hasOutParams = true) :
    (caching work delegate).queryWithKey statement parameter bounds none key shared =
      (.error (.error (.cache (.outParamsNotCacheable statement.id))), caching flushed delegate,
        shared) := by
  rw [queryWithKey, hcache]
  simp only [hflush, huse, hout, Bool.not_true, Option.isSome_none, Bool.or_self,
    Bool.false_eq_true, if_false, if_true]

/-- What a select makes of the answer of its region: only what is missing is fetched and staged. -/
def lookedUp (delegate : Executor) (statement : MappedStatement) (parameter : Value)
    (bounds : RowBounds) (key : CacheKey) (region : RegionRef) (shared : Shared) :
    Except Error Lookup × UnitOfWork × RegionStore → Result Rows
  | (.error e, work, regions) => (.error (.error e), caching work delegate, { shared with regions })
  | (.ok (.hit rows), work, regions) => (.ok rows, caching work delegate, { shared with regions })
  | (.ok .miss, work, regions) =>
    match delegate.queryWithKey statement parameter bounds none key { shared with regions } with
    | (.error e, delegate, shared) => (.error e, caching work delegate, shared)
    | (.ok rows, delegate, shared) =>
      match work.put region key rows with
      | .error e => (.error (.error e), caching work delegate, shared)
      | .ok work => (.ok rows, caching work delegate, shared)

theorem queryWithKey_eq_lookedUp {work flushed : UnitOfWork} (delegate : Executor)
    {statement : MappedStatement} {region : RegionRef} (parameter : Value) (bounds : RowBounds)
    (key : CacheKey) (shared : Shared) (hcache : statement.cache = some region)
    (hflush : flushIfRequired work statement = .ok flushed) (huse : statement.useCache = true)
    (hout : statement.hasOutParams = false) :
    (caching work delegate).queryWithKey statement parameter bounds none key shared =
      lookedUp delegate statement parameter bounds key region shared
        (flushed.get shared.regions region key) := by
  rw [queryWithKey, hcache]
  simp only [hflush, huse, hout, Bool.not_true, Option.isSome_none, Bool.or_self,
    Bool.false_eq_true, if_false]
  rfl

end Executor

/-! ## Entries of regions under each call -/

theorem UnitOfWork.sameEntries_get (u : UnitOfWork) (store : RegionStore) (r : RegionRef)
    (key : CacheKey) : (u.get store r key).2.2.SameEntries store := by
  unfold UnitOfWork.get
  cases u.view? r with
  | error e => exact .refl store
  | ok v => exact v.sameEntries_get store key

namespace Executor

variable {s t : Shared}

/-- Rows that a cache has not found are fetched and staged. -/
theorem sameEntries_queryWithKey (x : Executor) (statement : MappedStatement)
    (parameter : Value) (bounds : RowBounds) (handler : Option Handler) (key : CacheKey)
    (s : Shared) :
    (x.queryWithKey statement parameter bounds handler key s).2.2.regions.SameEntries
      s.regions := by
  induction x generalizing handler s with
  | direct c =>
    rw [regions_direct_queryWithKey]
    exact .refl s.regions
  | caching work delegate ih =>
    unfold queryWithKey
    cases statement.cache with
    | none => exact ih handler s
    | some region =>
      dsimp only
      split
      · exact .refl s.regions
      · rename_i flushed _
        split_ifs
        · exact ih handler s
        · exact .refl s.regions
        · have hget := flushed.sameEntries_get s.regions region key
          split
          · rename_i hlookup
            rw [hlookup] at hget
            exact hget
          · rename_i hlookup
            rw [hlookup] at hget
            exact hget
          · rename_i looked regions hlookup
            rw [hlookup] at hget
            have hfetch := ih none { s with regions }
            split
            · rename_i hfetched
              rw [hfetched] at hfetch
              exact hfetch.trans hget
            · rename_i hfetched
              rw [hfetched] at hfetch
              split
              · exact hfetch.trans hget
              · exact hfetch.trans hget

theorem sameEntries_query (x : Executor) (statement : MappedStatement) (parameter : Value)
    (bounds : RowBounds) (handler : Option Handler) (s : Shared) :
    (x.query statement parameter bounds handler s).2.2.regions.SameEntries s.regions := by
  unfold query
  split
  · exact .refl s.regions
  · exact x.sameEntries_queryWithKey statement parameter bounds handler _ s

/-- An executor reports that a commit was made only if its connection did. -/
theorem connection_commit_of_commit (x : Executor) {required : Bool}
    (h : (x.commit required s).1 = .ok true) :
    (x.connection.commit s.source required).1 = .ok true := by
  induction x with
  | direct c => exact h
  | caching work delegate ih =>
    unfold commit at h
    split at h
    · cases h
    · cases h
    · rename_i hdelegate
      exact ih (by rw [hdelegate])

theorem regions_unmade_commit (x : Executor) {required : Bool}
    (h : (x.connection.commit s.source required).1 ≠ .ok true) :
    (x.commit required s).2.2.regions = s.regions := by
  induction x with
  | direct c => rfl
  | caching work delegate ih =>
    have hregions := ih h
    unfold commit
    split
    · rename_i hdelegate
      rw [hdelegate] at hregions
      exact hregions
    · rename_i hdelegate
      rw [hdelegate] at hregions
      exact hregions
    · rename_i hdelegate
      exact absurd (connection_commit_of_commit delegate (by rw [hdelegate])) h

theorem sameEntries_perform (x : Executor) (s : Shared) {call : ExecutorCall}
    (h : ¬ call.Publishes x s.source) :
    (x.perform s call).2.2.regions.SameEntries s.regions := by
  cases call with
  | query statement parameter bounds handler =>
    exact x.sameEntries_query statement parameter bounds handler s
  | queryCursor statement parameter bounds =>
    exact x.regions_queryCursor statement parameter bounds s ▸ .refl _
  | update statement parameter => exact x.regions_update statement parameter s ▸ .refl _
  | flushStatements => exact x.regions_flushStatements s ▸ .refl _
  | commit required => exact x.regions_unmade_commit h ▸ .refl _
  | rollback required => exact x.regions_rollback required s ▸ .refl _
  | close forceRollback =>
    have hforced : forceRollback = true := by
      simpa [ExecutorCall.Publishes] using h
    subst hforced
    exact x.regions_forced_close s ▸ .refl _
  | clearLocalCache => exact .refl s.regions

end Executor

end DataMapper
