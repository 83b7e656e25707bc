import DataMapper.Proofs.Executor.Selects
import DataMapper.Proofs.Executor.Transparency
/-!
# Requests and fetches

All that can be asked of an executor, selects under any key included. Beside its answer, each
request tells which selects the caches have asked of the executors behind them. The notes change
nothing of the answer.
-/

namespace DataMapper

/-- A call of an executor, or a select under a given key. -/
inductive ExecutorRequest where
  | call (call : ExecutorCall)
  | keyed (statement : MappedStatement) (parameter : Value) (bounds : RowBounds)
      (handler : Option Handler) (key : CacheKey)
  deriving DecidableEq

/-- A select that a cache asks of the executor behind it, with the answer. -/
structure Fetch where
  statement : MappedStatement
  parameter : Value
  bounds : RowBounds
  handler : Option Handler
  key : CacheKey
  outcome : Outcome Rows

namespace Executor

/-- Runs a select under a given key and notes down what is fetched for it. -/
def queryNoting : Executor → MappedStatement → Value → RowBounds → Option Handler → CacheKey →
    Shared → List Fetch × Result Rows
  | direct c, statement, parameter, bounds, handler, key, shared =>
    ([], (direct c).queryWithKey statement parameter bounds handler key shared)
  | caching work delegate, statement, parameter, bounds, handler, key, shared =>
    let passThrough (work : UnitOfWork) : List Fetch × Result Rows :=
      let (noted, outcome, delegate, shared) :=
        delegate.queryNoting statement parameter bounds handler key shared
      (noted ++ [⟨statement, parameter, bounds, handler, key, outcome⟩],
        outcome, caching work delegate, shared)
    match statement.cache with
    | none => passThrough work
    | some region =>
      match flushIfRequired work statement with
      | .error e => ([], .error (.error e), caching work delegate, shared)
      | .ok work =>
        if !statement.useCache || handler.isSome then passThrough work
        else if statement.hasOutParams then
          ([], .error (.error (.cache (.outParamsNotCacheable statement.id))),
            caching work delegate, shared)
        else
          match work.get shared.regions region key with
          | (.error e, work, regions) =>
            ([], .error (.error e), caching work delegate, { shared with regions })
          | (.ok (.hit rows), work, regions) =>
            ([], .ok rows, caching work delegate, { shared with regions })
          | (.ok .miss, work, regions) =>
            let (noted, outcome, delegate, shared) :=
              delegate.queryNoting statement parameter bounds none key { shared with regions }
            let noted := noted ++ [⟨statement, parameter, bounds, none, key, outcome⟩]
            match outcome with
            | .error e => (noted, .error e, caching work delegate, shared)
            | .ok rows =>
              match work.put region key rows with
              | .error e => (noted, .error (.error e), caching work delegate, shared)
              | .ok work => (noted, .ok rows, caching work delegate, shared)

variable {work flushed looked : UnitOfWork} {delegate : Executor} {statement : MappedStatement}
  {parameter : Value} {bounds : RowBounds} {handler : Option Handler} {key : CacheKey}
  {s : Shared} {region : RegionRef} {regions : RegionStore}

/-- The notes of a select that passes the cache by. -/
theorem queryNoting_of_passed (hflush : flushIfRequired work statement = .ok flushed)
    (hpass : statement.cache = none ∨ statement.useCache = false ∨ handler.isSome = true) :
    (caching work delegate).queryNoting statement parameter bounds handler key s =
      ((delegate.queryNoting statement parameter bounds handler key s).1 ++
          [⟨statement, parameter, bounds, handler, key,
            (delegate.queryNoting statement parameter bounds handler key s).2.1⟩],
        passed flushed (delegate.queryNoting statement parameter bounds handler key s).2) := by
  rw [queryNoting]
  cases hcache : statement.cache with
  | none =>
    rw [flushIfRequired_of_uncached work hcache] at hflush
    cases hflush
    rfl
  | some region =>
    rw [hcache] at hpass
    have hpass' : (!statement.useCache || handler.isSome) = true := by simpa using hpass
    simp only [hflush, hpass', if_true]
    rfl

/-- The notes of a select whose rows are missing from its region. -/
theorem queryNoting_of_missed (hlooks : work.LooksUp statement region flushed)
    (hget : flushed.get s.regions region key = (.ok .miss, looked, regions)) :
    ((caching work delegate).queryNoting statement parameter bounds none key s).1 =
      (delegate.queryNoting statement parameter bounds none key { s with regions }).1 ++
        [⟨statement, parameter, bounds, none, key,
          (delegate.queryNoting statement parameter bounds none key { s with regions }).2.1⟩] := by
  rw [queryNoting, hlooks.cache]
  simp only [hlooks.flush, hlooks.useCache, hlooks.inputOnly, hget, Bool.not_true,
    Option.isSome_none, Bool.or_self, Bool.false_eq_true, if_false]
  generalize delegate.queryNoting statement parameter bounds none key
    ⟨regions, s.source, s.journal⟩ = answer
  obtain ⟨noted, outcome, fetched, s'⟩ := answer
  cases outcome with
  | error fault => rfl
  | ok rows =>
    dsimp only
    cases looked.put region key rows <;> rfl

/-- A select that may have output parameters is turned away before anything is fetched for it. -/
theorem queryNoting_of_outParams (delegate : Executor) (parameter : Value) (bounds : RowBounds)
    (key : CacheKey) (s : Shared) (hcache : statement.cache = some region)
    (hflush : flushIfRequired work statement = .ok flushed) (huse : statement.useCache = true)
    (hout : statement.hasOutParams = true) :
    (caching work delegate).queryNoting statement parameter bounds none key s =
      ([], .error (.error (.cache (.outParamsNotCacheable statement.id))),
        caching flushed delegate, s) := by
  rw [queryNoting, hcache]
  simp only [hflush, huse, hout, Bool.not_true, Option.isSome_none, Bool.or_self,
    Bool.false_eq_true, if_false, if_true]

/-- What is noted behind a cache: fetches that the executor there notes, and its own answer. -/
theorem mem_queryNoting {f : Fetch}
    (hf : f ∈ ((caching work delegate).queryNoting statement parameter bounds handler key s).1) :
    ∃ handler' s',
      f ∈ (delegate.queryNoting statement parameter bounds handler' key s').1 ∨
        f.outcome = (delegate.queryNoting statement parameter bounds handler' key s').2.1 := by
  have hanswer : ∀ handler' s',
      f ∈ (delegate.queryNoting statement parameter bounds handler' key s').1 ++
        [⟨statement, parameter, bounds, handler', key,
          (delegate.queryNoting statement parameter bounds handler' key s').2.1⟩] →
      f ∈ (delegate.queryNoting statement parameter bounds handler' key s').1 ∨
        f.outcome = (delegate.queryNoting statement parameter bounds handler' key s').2.1 := by
    intro handler' s' hf
    rcases List.mem_append.1 hf with hf | hf
    · exact .inl hf
    · rw [List.mem_singleton.1 hf]
      exact .inr rfl
  rw [queryNoting] at hf
  dsimp only at hf
  split at hf
  · exact ⟨handler, s, hanswer handler s hf⟩
  · split at hf
    · cases hf
    · split_ifs at hf
      · exact ⟨handler, s, hanswer handler s hf⟩
      · cases hf
      · split at hf
        · cases hf
        · cases hf
        · rename_i looked regions _
          refine ⟨none, { s with regions }, hanswer none { s with regions } ?_⟩
          split at hf
          · exact hf
          · split at hf <;> exact hf

/-- Notes change nothing of a select. -/
theorem snd_queryNoting (x : Executor) (statement : MappedStatement) (parameter : Value)
    (bounds : RowBounds) (handler : Option Handler) (key : CacheKey) (s : Shared) :
    (x.queryNoting statement parameter bounds handler key s).2 =
      x.queryWithKey statement parameter bounds handler key s := by
  induction x generalizing handler s with
  | direct c => rfl
  | caching work delegate ih =>
    rw [queryNoting, queryWithKey]
    cases statement.cache with
    | none =>
      dsimp only
      rw [← ih handler s]
    | some region =>
      dsimp only
      cases flushIfRequired work statement with
      | error e => rfl
      | ok flushed =>
        dsimp only
        split_ifs
        · rw [← ih handler s]
        · rfl
        · generalize flushed.get s.regions region key = looked
          obtain ⟨found, looked, regions⟩ := looked
          cases found with
          | error e => rfl
          | ok found =>
            cases found with
            | hit rows => rfl
            | miss =>
              dsimp only
              rw [← ih none { s with regions }]
              generalize delegate.queryNoting statement parameter bounds none key
                { s with regions } = answer
              obtain ⟨noted, outcome, fetched, s'⟩ := answer
              cases outcome with
              | error fault => rfl
              | ok rows =>
                dsimp only
                cases looked.put region key rows <;> rfl

/-- The notes of a select beside its answer in general form. -/
def replyRows (answer : List Fetch × Result Rows) : List Fetch × Result ExecutorReply :=
  (answer.1, answer.2.1.map .rows, answer.2.2)

/-- Serves a request, with notes of what is fetched. -/
def serve (x : Executor) (s : Shared) : ExecutorRequest → List Fetch × Result ExecutorReply
  | .keyed statement parameter bounds handler key =>
    replyRows (x.queryNoting statement parameter bounds handler key s)
  | .call (.query statement parameter bounds handler) =>
    match x.keyFor statement parameter bounds with
    | .error e => ([], .error (.error (.binding e)), x, s)
    | .ok key => replyRows (x.queryNoting statement parameter bounds handler key s)
  | .call call => ([], x.perform s call)

theorem snd_serve_keyed (x : Executor) (s : Shared) (statement : MappedStatement)
    (parameter : Value) (bounds : RowBounds) (handler : Option Handler) (key : CacheKey) :
    (x.serve s (.keyed statement parameter bounds handler key)).2 =
      ((x.queryWithKey statement parameter bounds handler key s).1.map .rows,
        (x.queryWithKey statement parameter bounds handler key s).2) := by
  rw [← snd_queryNoting]
  rfl

/-- What is noted of a request is noted of a select. -/
theorem mem_serve {x : Executor} {s : Shared} {request : ExecutorRequest} {f : Fetch}
    (hf : f ∈ (x.serve s request).1) :
    ∃ statement parameter bounds handler key,
      f ∈ (x.queryNoting statement parameter bounds handler key s).1 := by
  cases request with
  | keyed statement parameter bounds handler key =>
    exact ⟨statement, parameter, bounds, handler, key, hf⟩
  | call call =>
    cases call with
    | query statement parameter bounds handler =>
      unfold serve at hf
      dsimp only at hf
      cases hkey : x.keyFor statement parameter bounds with
      | error e =>
        rw [hkey] at hf
        cases hf
      | ok key =>
        rw [hkey] at hf
        exact ⟨statement, parameter, bounds, handler, key, hf⟩
    | _ => cases hf

/-- A call is served as it is performed. -/
theorem snd_serve_call (x : Executor) (s : Shared) (call : ExecutorCall) :
    (x.serve s (.call call)).2 = x.perform s call := by
  cases call with
  | query statement parameter bounds handler =>
    unfold serve perform query
    dsimp only
    cases x.keyFor statement parameter bounds with
    | error e => rfl
    | ok key =>
      dsimp only [replyRows]
      rw [snd_queryNoting]
  | _ => rfl

end Executor

/-! ## Pools with fetches -/

/-- What can happen to a pool: a request of one executor, any change of the source, or a change of
the calls that a region refuses. -/
inductive PoolEvent where
  | request (executor : Nat) (request : ExecutorRequest)
  | change (change : DataSource → DataSource)
  | refuse (region : RegionRef) (calls : List RegionCall)

namespace Pool

/-- The answer to an event with what was fetched for it, and the pool after it. -/
def happen (p : Pool) : PoolEvent → List Fetch × Pool
  | .request i request =>
    let (noted, _, x, shared) := (p.executors i).serve p.shared request
    (noted, ⟨Function.update p.executors i x, shared⟩)
  | .change change =>
    ([], { p with shared := { p.shared with source := change p.shared.source } })
  | .refuse r calls =>
    ([], { p with
      shared := { p.shared with regions := p.shared.regions.setRefusing r calls } })

/-- All that was fetched in the course of events, and the pool after them. -/
def observe (p : Pool) : List PoolEvent → List Fetch × Pool
  | [] => ([], p)
  | first :: rest =>
    let (noted, p) := p.happen first
    let (later, p) := p.observe rest
    (noted ++ later, p)

end Pool

end DataMapper
