import DataMapper.Proofs.Executor.Lookup
/-!
# Properties of staged views

A property of views that clearing and the staging of fetched rows keep, and that rolling back keeps
too unless no boundary is met, holds of the views of an executor after every call. A call that
publishes makes the contents of every region what the executor saw of it.
-/

namespace DataMapper

variable {regions : List RegionRef} {environment : String} {V W : Staged → Prop}

theorem UnitOfWork.views_modify {u : UnitOfWork} {r : RegionRef} (hr : r ∈ regions)
    (h : ∀ r ∈ regions, V (u.viewOf r)) {f : Staged → Staged} (hf : ∀ v, V v → V (f v)) :
    ∀ r' ∈ regions, V ((u.modify r f).viewOf r') := by
  intro r' hr'
  rw [viewOf_modify]
  split_ifs
  · exact hf _ (h r hr)
  · exact h r' hr'

theorem UnitOfWork.views_flushedBy {u : UnitOfWork} {statement : MappedStatement}
    (hstatement : ∀ r, statement.cache = some r → r ∈ regions)
    (h : ∀ r ∈ regions, V (u.viewOf r)) (hclear : ∀ v, V v → V v.clear) :
    ∀ r ∈ regions, V ((u.flushedBy statement).viewOf r) := by
  unfold flushedBy
  cases hcache : statement.cache with
  | none => exact h
  | some region =>
    dsimp only
    split_ifs
    · exact views_modify (hstatement region hcache) h hclear
    · exact h

/-- The statement of the call uses one of these regions, if it uses any. -/
def ExecutorCall.On (regions : List RegionRef) : ExecutorCall → Prop
  | .query statement _ _ _ | .queryCursor statement _ _ | .update statement _ =>
    ∀ r, statement.cache = some r → r ∈ regions
  | _ => True

/-- The call may end a unit of work. -/
def ExecutorCall.Ends : ExecutorCall → Prop
  | .commit _ | .rollback _ | .close _ => True
  | _ => False

namespace Executor

variable {x : Executor} {s : Shared} {c : Connection}

/-- The unit of work of a cache. -/
def work : Executor → UnitOfWork
  | direct _ => .empty
  | caching work _ => work

/-- A cache over a connection in an environment, each of whose views has the property. -/
inductive Holds (regions : List RegionRef) (environment : String) (V : Staged → Prop) :
    Executor → Prop where
  | mk {work : UnitOfWork} {c : Connection} (within : work.Within regions)
      (views : ∀ r ∈ regions, V (work.viewOf r)) (environment_eq : c.environment = environment) :
      Holds regions environment V (caching work (direct c))

variable {work : UnitOfWork}

theorem Holds.imp (h : x.Holds regions environment V) (himp : ∀ v, V v → W v) :
    x.Holds regions environment W := by
  obtain ⟨hwork, hviews, henvironment⟩ := h
  exact ⟨hwork, fun r hr => himp _ (hviews r hr), henvironment⟩

/-- The views keep the property, the regions stay in memory, and the source answers as before. -/
structure Keeps (regions : List RegionRef) (environment : String) (V : Staged → Prop) (s : Shared)
    {α : Type} (p : α × Executor × Shared) : Prop where
  executor : p.2.1.Holds regions environment V
  memory : ∀ r ∈ regions, p.2.2.regions.InMemory r
  source : p.2.2.source.SameAnswers s.source

/-! ## Selects -/

theorem direct_queryWithKey_shape (c : Connection) (statement : MappedStatement)
    (parameter : Value) (bounds : RowBounds) (handler : Option Handler) (key : CacheKey)
    (s : Shared) :
    ∃ outcome c₁ s₁,
      (direct c).queryWithKey statement parameter bounds handler key s = (outcome, direct c₁, s₁) ∧
      c₁.SameState c ∧ s₁.regions = s.regions ∧ s₁.source.SameAnswers s.source := by
  have hregions := regions_direct_queryWithKey c statement parameter bounds handler key s
  have hsource := sameAnswers_direct_queryWithKey c statement parameter bounds handler key s
  obtain ⟨outcome, c₁, _, s₁, _, hquery, _, hc₁, _⟩ :=
    direct_queryWithKey_congr (.refl c) (.refl s) statement parameter bounds handler key
  rw [hquery] at hregions hsource
  exact ⟨outcome, c₁, s₁, hquery, hc₁, hregions, hsource⟩

theorem keeps_passed (hwork : work.Within regions) (hviews : ∀ r ∈ regions, V (work.viewOf r))
    (hc : c.environment = environment) (hmemory : ∀ r ∈ regions, s.regions.InMemory r)
    (statement : MappedStatement) (parameter : Value) (bounds : RowBounds)
    (handler : Option Handler) (key : CacheKey) :
    Keeps regions environment V s
      (passed work ((direct c).queryWithKey statement parameter bounds handler key s)) := by
  obtain ⟨outcome, c₁, s₁, hquery, hc₁, hregions, hsource⟩ :=
    direct_queryWithKey_shape c statement parameter bounds handler key s
  rw [hquery]
  exact ⟨⟨hwork, hviews, hc₁.environment.trans hc⟩, fun r hr => hregions ▸ hmemory r hr, hsource⟩

theorem Holds.queryWithKey (hsep : Separate regions) (hx : x.Holds regions environment V)
    (hmemory : ∀ r ∈ regions, s.regions.InMemory r) {statement : MappedStatement}
    (hstatement : ∀ r, statement.cache = some r → r ∈ regions) (hclear : ∀ v, V v → V v.clear)
    (parameter : Value) (bounds : RowBounds) (handler : Option Handler) (key : CacheKey)
    (hput : ∀ rows, handler = none → statement.cache.isSome = true → statement.useCache = true →
      (x.connection.select s.source statement parameter bounds).1 = .ok rows →
      ∀ v, V v → V (v.put key rows)) :
    Keeps regions environment V s
      (x.queryWithKey statement parameter bounds handler key s) := by
  obtain ⟨hwork, hviews, hc⟩ := hx
  rename_i work c
  have hflush := hwork.flushIfRequired_eq hsep hstatement
  have hflushed := hwork.flushedBy hsep hstatement
  have hflushedViews := UnitOfWork.views_flushedBy hstatement hviews hclear
  cases hcache : statement.cache with
  | none =>
    rw [queryWithKey_of_uncached work _ parameter bounds handler key s hcache]
    exact keeps_passed hwork hviews hc hmemory statement parameter bounds handler key
  | some region =>
    by_cases hpass : (!statement.useCache || handler.isSome) = true
    · rw [queryWithKey_of_passed _ parameter bounds key s hcache hflush hpass]
      exact keeps_passed hflushed hflushedViews hc hmemory statement parameter bounds handler key
    · obtain ⟨huse, rfl⟩ : statement.useCache = true ∧ handler = none := by simpa using hpass
      cases hout : statement.hasOutParams with
      | true =>
        rw [queryWithKey_of_outParams _ parameter bounds key s hcache hflush huse hout]
        exact ⟨⟨hflushed, hflushedViews, hc⟩, hmemory, .refl s.source⟩
      | false =>
        have hr := hstatement region hcache
        obtain ⟨store, hstore, hquery⟩ :=
          hwork.queryWithKey_eq hsep hcache hr huse hout (hmemory region hr) c parameter bounds key
        have hlooked := hflushed.modify hsep hr (f := id) fun _ => rfl
        have hlookedViews := UnitOfWork.views_modify hr hflushedViews (f := id) fun _ h => h
        have hstored : ∀ r ∈ regions, store.InMemory r :=
          fun r hr => (hmemory r hr).of_sameEntries hstore
        have hsource := c.sameAnswers_select s.source statement parameter bounds
        rw [hquery]
        split
        · exact ⟨⟨hlooked, hlookedViews, hc⟩, hstored, .refl s.source⟩
        · split
          · rename_i hselect
            rw [hselect] at hsource
            exact ⟨⟨hlooked, hlookedViews, hc⟩, hstored, hsource⟩
          · rename_i rows _ hselect
            rw [hselect] at hsource
            refine ⟨⟨hlooked.modify hsep hr fun _ => rfl, ?_, hc⟩, hstored, hsource⟩
            have hsome : statement.cache.isSome = true := by rw [hcache]; rfl
            exact UnitOfWork.views_modify hr hlookedViews
              (hput rows rfl hsome huse (congrArg Prod.fst hselect))

/-! ## Boundaries -/

/-- A commit that reaches the source makes the contents of the regions what was seen of them. -/
theorem commit_made_eq (hsep : Separate regions) (hwork : work.Within regions)
    (hmemory : ∀ r ∈ regions, s.regions.InMemory r) {required : Bool}
    (hmade : (c.commit s.source required).1 = .ok true) :
    ∃ store,
      (caching work (direct c)).commit required s =
        (.ok true, caching work.rollbackAll (direct (c.commit s.source required).2.1),
          { s with source := (c.commit s.source required).2.2, regions := store }) ∧
      (∀ r ∈ regions, store.contents r = work.overlay r (s.regions.contents r)) ∧
      ∀ r ∈ regions, store.InMemory r := by
  obtain ⟨store, hcommit, hcontents, hkeep⟩ := hwork.commitAll_eq hsep hmemory
  refine ⟨store, ?_, hcontents, fun r hr => hkeep r (hmemory r hr)⟩
  have hregions : ((direct c).commit required s).2.2.regions = s.regions := rfl
  rw [commit_of_made work (x := direct c) hmade, hregions, hcommit]
  rfl

/-- A close makes the contents of the regions what was seen of them, unless it rolls back. -/
theorem close_eq (hsep : Separate regions) (hwork : work.Within regions)
    (hmemory : ∀ r ∈ regions, s.regions.InMemory r) (c : Connection) (forceRollback : Bool) :
    ∃ store,
      (caching work (direct c)).close forceRollback s =
        ((c.close s.source forceRollback).1,
          caching work.rollbackAll (direct (c.close s.source forceRollback).2.1),
          { s with source := (c.close s.source forceRollback).2.2, regions := store }) ∧
      (∀ r ∈ regions, store.contents r =
        if forceRollback then s.regions.contents r else work.overlay r (s.regions.contents r)) ∧
      ∀ r ∈ regions, store.InMemory r := by
  cases forceRollback with
  | true => exact ⟨s.regions, close_caching (direct c) rfl, fun _ _ => rfl, hmemory⟩
  | false =>
    obtain ⟨store, hcommit, hcontents, hkeep⟩ := hwork.commitAll_eq hsep hmemory
    have hpublish : (if false then (.ok (), work.rollbackAll, s.regions)
        else work.commitAll s.regions) = (.ok (), work.rollbackAll, store) := hcommit
    exact ⟨store, close_caching (direct c) hpublish, hcontents,
      fun r hr => hkeep r (hmemory r hr)⟩

/-- A call that publishes makes the contents of the regions what was seen of them. -/
theorem contents_perform_of_publishes (hsep : Separate regions) (hwork : work.Within regions)
    (hmemory : ∀ r ∈ regions, s.regions.InMemory r) {call : ExecutorCall}
    (hcall : call.Publishes (caching work (direct c)) s.source) :
    ∀ r ∈ regions, ((caching work (direct c)).perform s call).2.2.regions.contents r =
      work.overlay r (s.regions.contents r) := by
  cases call with
  | commit required =>
    have hmade : (c.commit s.source required).1 = .ok true := hcall
    obtain ⟨store, hcommit, hcontents, _⟩ := commit_made_eq hsep hwork hmemory hmade
    unfold perform
    dsimp only
    rw [hcommit]
    exact hcontents
  | close forceRollback =>
    obtain ⟨store, hclose, hcontents, _⟩ := close_eq hsep hwork hmemory c forceRollback
    obtain rfl : forceRollback = false := hcall
    unfold perform
    dsimp only
    rw [hclose]
    exact hcontents
  | _ => exact hcall.elim

/-! ## All calls -/

/-- A call that the cache hands down to the connection. -/
theorem keeps_delegated {α : Type} (hwork : work.Within regions)
    (hviews : ∀ r ∈ regions, V (work.viewOf r)) (hc : c.environment = environment)
    (hmemory : ∀ r ∈ regions, s.regions.InMemory r) (answer : α) {d : DataSource}
    (hd : d.SameAnswers s.source) :
    Keeps regions environment V s (answer, caching work (direct c), { s with source := d }) :=
  ⟨⟨hwork, hviews, hc⟩, hmemory, hd⟩

theorem Holds.perform (hsep : Separate regions) (hx : x.Holds regions environment V)
    (hmemory : ∀ r ∈ regions, s.regions.InMemory r) {call : ExecutorCall}
    (hcall : call.On regions) (hclear : ∀ v, V v → V v.clear)
    (hreset : call.Ends → ∀ v, V v → V v.reset)
    (hput : ∀ statement parameter bounds key rows,
      call = .query statement parameter bounds none →
      statement.cache.isSome = true → statement.useCache = true →
      CacheKey.forStatement statement parameter bounds environment = .ok key →
      (x.connection.select s.source statement parameter bounds).1 = .ok rows →
      ∀ v, V v → V (v.put key rows)) :
    Keeps regions environment V s (x.perform s call) := by
  have hrolled : ∀ work : UnitOfWork, (∀ v, V v → V v.reset) →
      (∀ r ∈ regions, V (work.viewOf r)) → ∀ r ∈ regions, V (work.rollbackAll.viewOf r) := by
    intro work hv hviews r hr
    rw [UnitOfWork.viewOf_rollbackAll]
    exact hv _ (hviews r hr)
  obtain ⟨hwork, hviews, hc⟩ := hx
  rename_i work c
  cases call with
  | query statement parameter bounds handler =>
    have hkeyFor : (caching work (direct c)).keyFor statement parameter bounds =
        CacheKey.forStatement statement parameter bounds environment :=
      congrArg (CacheKey.forStatement statement parameter bounds) hc
    unfold perform query
    dsimp only
    rw [hkeyFor]
    cases hkey : CacheKey.forStatement statement parameter bounds environment with
    | error e => exact ⟨⟨hwork, hviews, hc⟩, hmemory, .refl s.source⟩
    | ok key =>
      have hquery := Holds.queryWithKey hsep ⟨hwork, hviews, hc⟩ hmemory hcall hclear parameter
        bounds handler key fun rows hnone hcache huse hselect =>
          hput statement parameter bounds key rows (by rw [hnone]) hcache huse hkey hselect
      exact ⟨hquery.executor, hquery.memory, hquery.source⟩
  | queryCursor statement parameter bounds =>
    unfold perform queryCursor
    dsimp only
    rw [hwork.flushIfRequired_eq hsep hcall]
    exact keeps_delegated (hwork.flushedBy hsep hcall)
      (UnitOfWork.views_flushedBy hcall hviews hclear) hc hmemory _ (c.sameAnswers_select _ _ _ _)
  | update statement parameter =>
    obtain ⟨hstate, hsource⟩ := c.update_keeps s.source statement parameter
    unfold perform update
    dsimp only
    rw [hwork.flushIfRequired_eq hsep hcall]
    exact keeps_delegated (hwork.flushedBy hsep hcall)
      (UnitOfWork.views_flushedBy hcall hviews hclear) (hstate.environment.trans hc) hmemory _
      hsource
  | flushStatements =>
    exact keeps_delegated hwork hviews hc hmemory _ (c.sameAnswers_flush s.source)
  | commit required =>
    obtain ⟨hstate, hsource⟩ := c.commit_keeps s.source required
    have hc' := hstate.environment.trans hc
    have hrolledViews := hrolled work (hreset trivial) hviews
    unfold perform
    dsimp only
    by_cases hmade : (c.commit s.source required).1 = .ok true
    · obtain ⟨store, hcommit, _, hstore⟩ := commit_made_eq hsep hwork hmemory hmade
      rw [hcommit]
      exact ⟨⟨hwork.rollbackAll, hrolledViews, hc'⟩, hstore, hsource⟩
    · rw [commit_of_not_made work (x := direct c) hmade]
      exact keeps_delegated hwork hviews hc' hmemory _ hsource
  | rollback required =>
    obtain ⟨hstate, hsource⟩ := c.rollback_keeps s.source required
    have hc' := hstate.environment.trans hc
    unfold perform rollback rollback
    cases required with
    | false => exact keeps_delegated hwork hviews hc' hmemory _ hsource
    | true =>
      exact keeps_delegated hwork.rollbackAll (hrolled work (hreset trivial) hviews) hc' hmemory _
        hsource
  | close forceRollback =>
    obtain ⟨hstate, hsource⟩ := c.close_keeps s.source forceRollback
    have hc' := hstate.environment.trans hc
    obtain ⟨store, hclose, _, hstore⟩ := close_eq hsep hwork hmemory c forceRollback
    unfold perform
    dsimp only
    rw [hclose]
    exact ⟨⟨hwork.rollbackAll, hrolled work (hreset trivial) hviews, hc'⟩, hstore, hsource⟩
  | clearLocalCache => exact ⟨⟨hwork, hviews, hc⟩, hmemory, .refl s.source⟩

/-! ## A single region -/

variable {r : RegionRef}

theorem Holds.view (hx : x.Holds [r] environment V) : V (x.work.viewOf r) := by
  obtain ⟨_, hviews, _⟩ := hx
  exact hviews r (List.mem_singleton_self r)

/-- A flushing update clears the view of its region. -/
theorem Holds.flush (hx : x.Holds [r] environment V) (hmemory : ∀ r' ∈ [r], s.regions.InMemory r')
    {write : MappedStatement} (hcache : write.cache = some r)
    (hflushes : write.flushCacheRequired = true) (parameter : Value)
    (hclear : ∀ v, V v → W v.clear) :
    Keeps [r] environment W s (x.perform s (.update write parameter)) := by
  obtain ⟨hwork, hviews, hc⟩ := hx
  rename_i work c
  have hcached := MappedStatement.mem_of_cache hcache (List.mem_singleton_self r)
  obtain ⟨hstate, hsource⟩ := c.update_keeps s.source write parameter
  have hflushed : ∀ r' ∈ [r], W ((work.flushedBy write).viewOf r') := by
    intro r' hr'
    obtain rfl := List.mem_singleton.1 hr'
    unfold UnitOfWork.flushedBy
    rw [hcache, hflushes]
    dsimp only
    rw [if_pos rfl, UnitOfWork.viewOf_modify_self]
    exact hclear _ (hviews r' hr')
  unfold Executor.perform Executor.update
  dsimp only
  rw [hwork.flushIfRequired_eq (separate_singleton r) hcached]
  exact keeps_delegated (hwork.flushedBy (separate_singleton r) hcached) hflushed
    (hstate.environment.trans hc) hmemory _ hsource

/-- A required commit that does not fail reaches the source. -/
theorem Holds.commit_made (hx : x.Holds [r] environment V) {reply : ExecutorReply}
    (h : (x.perform s (.commit true)).1 = .ok reply) :
    (x.connection.commit s.source true).1 = .ok true := by
  obtain ⟨hwork, hviews, hc⟩ := hx
  rename_i work c
  by_cases hmade : (c.commit s.source true).1 = .ok true
  · exact hmade
  · unfold Executor.perform Executor.reply at h
    dsimp only at h
    rw [commit_of_not_made work (x := direct c) hmade] at h
    unfold Executor.commit at h
    dsimp only at h
    cases hcommit : (c.commit s.source true).1 with
    | error e =>
      rw [hcommit] at h
      cases h
    | ok made =>
      cases made with
      | false => exact absurd hcommit (c.required_commit_ne s.source)
      | true => exact absurd hcommit hmade

end Executor

end DataMapper
