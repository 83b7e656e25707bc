import DataMapper.Configuration
import DataMapper.Proofs.Executor.Holds
import DataMapper.Proofs.Key
/-!
# Selects over up-to-date entries

An executor that sees nothing of a region but entries with the rows that a select has now answers
the select with these rows, whichever way it is asked.
-/

namespace DataMapper

open CacheKey (UpToDate)

/-- A select that sessions cache in a region. -/
structure Configuration.Caches (c : Configuration) (r : RegionRef) (select : MappedStatement) :
    Prop where
  enabled : c.settings.cacheEnabled = true
  found : c.toCatalog.statement select.id = .ok select
  cache : select.cache = some r
  useCache : select.useCache = true
  inputOnly : select.hasOutParams = false

/-- What clearing a view and staging an answer to the select keep. -/
structure Staged.Stable (select : MappedStatement) (environment : String) (d : DataSource)
    (V : Staged → Prop) : Prop where
  clear : ∀ v, V v → V v.clear
  put : ∀ parameter bounds key,
    CacheKey.forStatement select parameter bounds environment = .ok key →
      ∀ v, V v → V (v.put key (bounds.slice (d.answer select.id parameter)))

theorem Staged.Stable.of_sameAnswers {select : MappedStatement} {environment : String}
    {d d' : DataSource} {V : Staged → Prop} (h : Staged.Stable select environment d V)
    (hd : d'.SameAnswers d) : Staged.Stable select environment d' V := by
  refine ⟨h.clear, fun parameter bounds key hkey => ?_⟩
  rw [hd.answer]
  exact h.put parameter bounds key hkey

variable {c : Configuration} {r : RegionRef} {select : MappedStatement} {environment : String}
  {new : Rows}

/-- A property of all answers to the select stays one of all that is staged. -/
theorem Staged.stable_all {d : DataSource} {P : CacheKey → Rows → Prop}
    (h : ∀ parameter bounds key,
      CacheKey.forStatement select parameter bounds environment = .ok key →
        P key (bounds.slice (d.answer select.id parameter))) :
    Staged.Stable select environment d (Staged.All P) :=
  ⟨fun v _ => v.all_clear, fun parameter bounds key hkey _ hv =>
    hv.put (h parameter bounds key hkey)⟩

namespace Executor

/-- A cache over a connection, which sees nothing of the region but up-to-date entries. -/
inductive Current (r : RegionRef) (select : MappedStatement) (environment : String) (new : Rows)
    (regions : RegionStore) : Executor → Prop where
  | mk {work : UnitOfWork} {c : Connection} (within : work.Within [r])
      (environment_eq : c.environment = environment)
      (staged : Staged.All (UpToDate select environment new) (work.viewOf r))
      (contents : Contents.All (UpToDate select environment new) (regions.contents r)) :
      Current r select environment new regions (caching work (direct c))

variable {x : Executor} {s : Shared}

theorem query_of_key {handler : Option Handler} {parameter : Value} {bounds : RowBounds}
    {key : CacheKey} (hkey : x.keyFor select parameter bounds = .ok key) :
    x.query select parameter bounds handler s =
      x.queryWithKey select parameter bounds handler key s := by
  unfold query
  rw [hkey]

theorem Holds.current {regions : RegionStore} {V : Staged → Prop}
    (hx : x.Holds [r] environment V)
    (himp : ∀ v, V v → v.All (UpToDate select environment new))
    (hcontents : Contents.All (UpToDate select environment new) (regions.contents r)) :
    x.Current r select environment new regions := by
  obtain ⟨hwork, hviews, hc⟩ := hx
  exact ⟨hwork, hc, himp _ (hviews r (List.mem_singleton_self r)), hcontents⟩

variable (hcaches : c.Caches r select)
  (hanswer : ∀ parameter, s.source.answer select.id parameter = new)

include hcaches hanswer

theorem Current.queryCursor (h : x.Current r select environment new s.regions)
    (hopen : x.isClosed = false) (hquery : s.source.fails .query = false) (parameter : Value)
    (bounds : RowBounds) :
    (x.queryCursor select parameter bounds s).1 = .ok (bounds.slice new) := by
  obtain ⟨hwork, rfl, hstaged, hcontents⟩ := h
  rename_i work c
  have hflush := hwork.flushIfRequired_eq (separate_singleton r)
    (MappedStatement.mem_of_cache hcaches.cache (List.mem_singleton_self r))
  unfold Executor.queryCursor
  rw [hflush]
  unfold Executor.queryCursor
  dsimp only
  rw [c.select_eq hopen s.source hquery select parameter bounds, hanswer]

variable (hmemory : s.regions.InMemory r)

include hmemory

/-- Rows that a select returns are the new ones. -/
theorem Current.eq_slice (h : x.Current r select environment new s.regions) {parameter : Value}
    {bounds : RowBounds} {rows : Rows}
    (hrows : (x.query select parameter bounds none s).1 = .ok rows) : rows = bounds.slice new := by
  obtain ⟨hwork, rfl, hstaged, hcontents⟩ := h
  rename_i work c
  cases hkey : (caching work (direct c)).keyFor select parameter bounds with
  | error e =>
    unfold query at hrows
    rw [hkey] at hrows
    cases hrows
  | ok key =>
    obtain ⟨store, _, hquery⟩ := hwork.queryWithKey_eq (separate_singleton r) hcaches.cache
      (List.mem_singleton_self r) hcaches.useCache hcaches.inputOnly hmemory c parameter bounds key
    rw [query_of_key hkey, hquery] at hrows
    have hseen := (UnitOfWork.all_flushedBy hstaged select).overlay fun _ => hcontents
    split at hrows
    · rename_i hoverlay
      cases hrows
      exact hseen key rows hoverlay parameter bounds hkey
    · split at hrows
      · cases hrows
      · rename_i hselect
        cases hrows
        rw [← hanswer parameter]
        exact c.eq_slice_of_select (congrArg Prod.fst hselect)

/-- On an open connection a select returns the new rows, or hands them to its handler. -/
theorem Current.query (h : x.Current r select environment new s.regions)
    (hopen : x.isClosed = false) (hquery : s.source.fails .query = false) {parameter : Value}
    {bounds : RowBounds} {key : CacheKey} (hkey : x.keyFor select parameter bounds = .ok key)
    (handler : Option Handler) :
    (x.query select parameter bounds handler s).1 =
        (deliver handler (bounds.slice new) s.journal).1 ∧
      (x.query select parameter bounds handler s).2.2.journal =
        (deliver handler (bounds.slice new) s.journal).2 := by
  obtain ⟨hwork, rfl, hstaged, hcontents⟩ := h
  rename_i work c
  have hselect := c.select_eq hopen s.source hquery select parameter bounds
  rw [hanswer] at hselect
  rw [query_of_key hkey]
  cases handler with
  | none =>
    obtain ⟨store, _, hlooked⟩ := hwork.queryWithKey_eq (separate_singleton r) hcaches.cache
      (List.mem_singleton_self r) hcaches.useCache hcaches.inputOnly hmemory c parameter bounds key
    have hseen := (UnitOfWork.all_flushedBy hstaged select).overlay fun _ => hcontents
    rw [hlooked]
    split
    · rename_i rows hoverlay
      rw [hseen key rows hoverlay parameter bounds hkey]
      exact ⟨rfl, rfl⟩
    · rw [hselect]
      exact ⟨rfl, rfl⟩
  | some handler =>
    have hflush := hwork.flushIfRequired_eq (separate_singleton r)
      (MappedStatement.mem_of_cache hcaches.cache (List.mem_singleton_self r))
    rw [queryWithKey_of_passed (direct c) parameter bounds key s hcaches.cache hflush
      (Bool.or_true _)]
    unfold passed queryWithKey
    dsimp only
    rw [hselect]
    exact ⟨rfl, rfl⟩

end Executor

end DataMapper
