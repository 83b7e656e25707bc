import DataMapper.Proofs.Executor.Calls
/-!
# Ways of a select

All that a select can do behind a cache, each way with what it takes to go it. Whatever selects
preserve is so shown once for each way.
-/

namespace DataMapper

/-- The statement looks rows up in its region, once it has flushed the region if it must. -/
structure UnitOfWork.LooksUp (work : UnitOfWork) (statement : MappedStatement)
    (region : RegionRef) (flushed : UnitOfWork) : Prop where
  cache : statement.cache = some region
  flush : Executor.flushIfRequired work statement = .ok flushed
  useCache : statement.useCache = true
  inputOnly : statement.hasOutParams = false

namespace Executor

/-- The results of a select under a key, behind the cache of a unit of work. -/
inductive Selects (work : UnitOfWork) (delegate : Executor) (statement : MappedStatement)
    (parameter : Value) (bounds : RowBounds) (key : CacheKey) (s : Shared) :
    Option Handler → Result Rows → Prop where
  /-- The cache is passed by. -/
  | passed {handler : Option Handler} {flushed : UnitOfWork}
    (hflush : flushIfRequired work statement = .ok flushed)
    (hpass : statement.cache = none ∨ statement.useCache = false ∨ handler.isSome = true) :
    Selects work delegate statement parameter bounds key s handler
      (passed flushed (delegate.queryWithKey statement parameter bounds handler key s))
  | unflushed {handler : Option Handler} {e : Error}
    (hflush : flushIfRequired work statement = .error e) :
    Selects work delegate statement parameter bounds key s handler
      (.error (.error e), caching work delegate, s)
  | outParams {region : RegionRef} {flushed : UnitOfWork} (hcache : statement.cache = some region)
    (hflush : flushIfRequired work statement = .ok flushed) (huse : statement.useCache = true)
    (hout : statement.hasOutParams = true) :
    Selects work delegate statement parameter bounds key s none
      (.error (.error (.cache (.outParamsNotCacheable statement.id))), caching flushed delegate, s)
  | unanswered {region : RegionRef} {flushed looked : UnitOfWork} {regions : RegionStore}
    {e : Error} (hlooks : work.LooksUp statement region flushed)
    (hget : flushed.get s.regions region key = (.error e, looked, regions)) :
    Selects work delegate statement parameter bounds key s none
      (.error (.error e), caching looked delegate, { s with regions })
  | hit {region : RegionRef} {flushed looked : UnitOfWork} {regions : RegionStore} {rows : Rows}
    (hlooks : work.LooksUp statement region flushed)
    (hget : flushed.get s.regions region key = (.ok (.hit rows), looked, regions)) :
    Selects work delegate statement parameter bounds key s none
      (.ok rows, caching looked delegate, { s with regions })
  | unfetched {region : RegionRef} {flushed looked : UnitOfWork} {regions : RegionStore}
    {fault : Fault} {fetched : Executor} {s' : Shared}
    (hlooks : work.LooksUp statement region flushed)
    (hget : flushed.get s.regions region key = (.ok .miss, looked, regions))
    (hfetch : delegate.queryWithKey statement parameter bounds none key { s with regions } =
      (.error fault, fetched, s')) :
    Selects work delegate statement parameter bounds key s none
      (.error fault, caching looked fetched, s')
  | unstaged {region : RegionRef} {flushed looked : UnitOfWork} {regions : RegionStore}
    {rows : Rows} {fetched : Executor} {s' : Shared} {e : Error}
    (hlooks : work.LooksUp statement region flushed)
    (hget : flushed.get s.regions region key = (.ok .miss, looked, regions))
    (hfetch : delegate.queryWithKey statement parameter bounds none key { s with regions } =
      (.ok rows, fetched, s'))
    (hput : looked.put region key rows = .error e) :
    Selects work delegate statement parameter bounds key s none
      (.error (.error e), caching looked fetched, s')
  | staged {region : RegionRef} {flushed looked staged : UnitOfWork} {regions : RegionStore}
    {rows : Rows} {fetched : Executor} {s' : Shared}
    (hlooks : work.LooksUp statement region flushed)
    (hget : flushed.get s.regions region key = (.ok .miss, looked, regions))
    (hfetch : delegate.queryWithKey statement parameter bounds none key { s with regions } =
      (.ok rows, fetched, s'))
    (hput : looked.put region key rows = .ok staged) :
    Selects work delegate statement parameter bounds key s none
      (.ok rows, caching staged fetched, s')

theorem flushIfRequired_of_uncached (work : UnitOfWork) {statement : MappedStatement}
    (hcache : statement.cache = none) : flushIfRequired work statement = .ok work := by
  unfold flushIfRequired
  rw [hcache]

theorem selects_lookedUp {work flushed : UnitOfWork} (delegate : Executor)
    {statement : MappedStatement} {region : RegionRef} (parameter : Value) (bounds : RowBounds)
    (key : CacheKey) (s : Shared) (hlooks : work.LooksUp statement region flushed) :
    Selects work delegate statement parameter bounds key s none
      (lookedUp delegate statement parameter bounds key region s
        (flushed.get s.regions region key)) := by
  cases hget : flushed.get s.regions region key with
  | mk found rest =>
    obtain ⟨looked, regions⟩ := rest
    cases found with
    | error e => exact .unanswered hlooks hget
    | ok found =>
      cases found with
      | hit rows => exact .hit hlooks hget
      | miss =>
        unfold lookedUp
        dsimp only
        cases hfetch : delegate.queryWithKey statement parameter bounds none key
            { s with regions } with
        | mk outcome rest =>
          obtain ⟨fetched, s'⟩ := rest
          cases outcome with
          | error fault => exact .unfetched hlooks hget hfetch
          | ok rows =>
            dsimp only
            cases hput : looked.put region key rows with
            | error e => exact .unstaged hlooks hget hfetch hput
            | ok staged => exact .staged hlooks hget hfetch hput

/-- There is no other way. -/
theorem selects_queryWithKey (work : UnitOfWork) (delegate : Executor)
    (statement : MappedStatement) (parameter : Value) (bounds : RowBounds)
    (handler : Option Handler) (key : CacheKey) (s : Shared) :
    Selects work delegate statement parameter bounds key s handler
      ((caching work delegate).queryWithKey statement parameter bounds handler key s) := by
  cases hcache : statement.cache with
  | none =>
    rw [queryWithKey_of_uncached work delegate parameter bounds handler key s hcache]
    exact .passed (flushIfRequired_of_uncached work hcache) (.inl hcache)
  | some region =>
    cases hflush : flushIfRequired work statement with
    | error e =>
      rw [queryWithKey, hcache]
      simp only [hflush]
      exact .unflushed hflush
    | ok flushed =>
      by_cases hpass : (!statement.useCache || handler.isSome) = true
      · rw [queryWithKey_of_passed delegate parameter bounds key s hcache hflush hpass]
        rw [Bool.or_eq_true, Bool.not_eq_true'] at hpass
        exact .passed hflush (.inr hpass)
      · obtain ⟨huse, rfl⟩ : statement.useCache = true ∧ handler = none := by simpa using hpass
        cases hout : statement.hasOutParams with
        | true =>
          rw [queryWithKey_of_outParams delegate parameter bounds key s hcache hflush huse hout]
          exact .outParams hcache hflush huse hout
        | false =>
          rw [queryWithKey_eq_lookedUp delegate parameter bounds key s hcache hflush huse hout]
          exact selects_lookedUp delegate parameter bounds key s ⟨hcache, hflush, huse, hout⟩

end Executor

end DataMapper
