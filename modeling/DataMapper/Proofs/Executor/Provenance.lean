import DataMapper.Proofs.Executor.Custody
import DataMapper.Proofs.Region.Entries
/-!
# Provenance of cached rows

All that is cached was fetched for it: by a select of the executor behind the cache under that very
key, without a handler, for a statement that caches in the region and has no output parameters. A
statement that has them is turned away before anything is fetched or looked up for it, even when
its key is cached.
-/

namespace DataMapper

/-! ## Rows and their fetches -/

/-- One of the fetches has brought the rows for one of the regions. -/
def Supplied (noted : List Fetch) (regions : RegionRef → Prop) (key : CacheKey) (rows : Rows) :
    Prop :=
  ∃ f ∈ noted, ∃ region, regions region ∧ f.Supplies region key rows

/-- All that is staged in the view was fetched for its region. -/
def Staged.Fetched (noted : List Fetch) (v : Staged) : Prop :=
  ∀ key rows, v.staged.get? key = some rows →
    Supplied noted (·.slot = v.region.slot) key rows

/-- All that is stored was fetched for a region with the storage it is in. No region changes its
storage after the start. -/
structure RegionStore.Fetched (start : RegionStore) (noted : List Fetch) (store : RegionStore) :
    Prop where
  shares : ∀ r r', store.Shares r r' ↔ start.Shares r r'
  entries : store.Only fun r => Supplied noted (start.Shares · r)

variable {noted noted' : List Fetch} {start store store' : RegionStore}

theorem Supplied.mono {regions : RegionRef → Prop} {key : CacheKey} {rows : Rows}
    (h : Supplied noted regions key rows) (hnoted : noted ⊆ noted') :
    Supplied noted' regions key rows := by
  obtain ⟨f, hf, hsupplies⟩ := h
  exact ⟨f, hnoted hf, hsupplies⟩

namespace RegionStore.Fetched

theorem of_size (h : ∀ r, (start.storage r).size = 0) : Fetched start noted start :=
  ⟨fun _ _ => Iff.rfl, fun r => Storage.only_of_size (h r)⟩

theorem mono (h : Fetched start noted store) (hnoted : noted ⊆ noted') :
    Fetched start noted' store :=
  ⟨h.shares, fun r => (h.entries r).imp fun _ _ hsupplied => hsupplied.mono hnoted⟩

theorem sameEntries (hsame : store'.SameEntries store) (h : Fetched start noted store) :
    Fetched start noted store' := by
  refine ⟨fun r r' => ?_, h.entries.of_storage hsame.storage⟩
  exact (SameLayout.of_sameEntries hsame).shares.trans (h.shares r r')

theorem setRefusing (r : RegionRef) (calls : List RegionCall) (h : Fetched start noted store) :
    Fetched start noted (store.setRefusing r calls) :=
  ⟨fun r₁ r₂ => (shares_setRefusing calls).trans (h.shares r₁ r₂),
    h.entries.of_storage fun r' => storage_setRefusing store r r' calls⟩

theorem publishAll {views : List (String × Staged)} (hviews : ∀ e ∈ views, e.2.Fetched noted)
    (h : Fetched start noted store) :
    Fetched start noted (UnitOfWork.publishAll views store).2 := by
  refine ⟨fun r r' => ?_, UnitOfWork.only_publishAll (fun e he => ?_) h.entries⟩
  · exact (UnitOfWork.sameLayout_publishAll views store).shares.trans (h.shares r r')
  · intro key rows hrows r hshares
    obtain ⟨f, hf, region, hslot, hsupplies⟩ := hviews e he key rows hrows
    exact ⟨f, hf, region, ((h.shares _ _).1 hshares).of_slot hslot, hsupplies⟩

end RegionStore.Fetched

theorem Staged.Fetched.mono {v : Staged} (h : v.Fetched noted) (hnoted : noted ⊆ noted') :
    v.Fetched noted' :=
  fun key rows hrows => (h key rows hrows).mono hnoted

/-- Views are fetched for as long as only fetched rows are put. -/
theorem Staged.lasts_fetched (noted : List Fetch) :
    Staged.Lasts (Fetched noted) (fun _ => True)
      (fun r key rows => ∃ f ∈ noted, f.Supplies r key rows) where
  fresh := fun _ _ hrows => by simp at hrows
  clear := fun _ _ _ _ _ hrows => by simp [Staged.clear] at hrows
  put := fun {v r key rows} hv hslot hput => by
    obtain ⟨f, hf, hsupplies⟩ := hput
    exact Table.forall_insert
      (P := fun key rows => Supplied noted (·.slot = v.region.slot) key rows)
      ⟨f, hf, r, hslot.symm, hsupplies⟩ hv
  reset := fun _ _ _ hrows => by simp [Staged.reset] at hrows

theorem custody_fetched (start : RegionStore) (noted : List Fetch) :
    Custody (UnitOfWork.EachView (Staged.Fetched noted)) (RegionStore.Fetched start noted)
      (fun _ => True) (fun _ => True) (fun r key rows => ∃ f ∈ noted, f.Supplies r key rows) :=
  (Staged.lasts_fetched noted).custody _ (fun _ _ hviews hstore => hstore.publishAll hviews)
    fun hsame hstore => hstore.sameEntries hsame

/-! ## Units of work on separate regions -/

theorem custody_within {regions : List RegionRef} (hsep : Separate regions) :
    Custody (·.Within regions) (fun _ => True) (· ∈ regions) (fun _ => True)
      (fun _ _ _ => True) where
  clear := fun hu hr _ hclear => by
    rw [hu.clear_eq hsep hr] at hclear
    exact Except.ok.inj hclear ▸ hu.modify hsep hr fun _ => rfl
  get := fun {u r} store key hu hr => by
    unfold UnitOfWork.get
    rw [hu.view?_eq hsep hr]
    exact hu.modify (f := id) hsep hr fun _ => rfl
  put := fun hu hr _ hput => by
    rw [hu.put_eq hsep hr] at hput
    exact Except.ok.inj hput ▸ hu.modify hsep hr fun _ => rfl
  rollbackAll := fun hu => hu.rollbackAll
  publishAll := fun _ _ => trivial
  sameEntries := fun _ _ => trivial

/-- A select with output parameters is turned away, and neither the regions nor the executors behind
the cache are asked anything. -/
theorem Executor.serve_outParams {regions : List RegionRef} (hsep : Separate regions)
    {work : UnitOfWork} (hwork : work.Within regions) (delegate : Executor)
    {statement : MappedStatement} {region : RegionRef} (hcache : statement.cache = some region)
    (hregion : region ∈ regions) (huse : statement.useCache = true)
    (hout : statement.hasOutParams = true) (parameter : Value) (bounds : RowBounds)
    (key : CacheKey) (s : Shared) :
    (caching work delegate).serve s (.keyed statement parameter bounds none key) =
      ([], .error (.error (.cache (.outParamsNotCacheable statement.id))),
        caching (work.flushedBy statement) delegate, s) := by
  have hflush : flushIfRequired work statement = .ok (work.flushedBy statement) := by
    refine hwork.flushIfRequired_eq hsep fun r hr => ?_
    rw [hcache] at hr
    exact Option.some.inj hr ▸ hregion
  exact congrArg replyRows
    (queryNoting_of_outParams delegate parameter bounds key s hcache hflush huse hout)

/-! ## Runs -/

namespace Pool

variable {p : Pool}

theorem observe_cons (p : Pool) (first : PoolEvent) (rest : List PoolEvent) :
    p.observe (first :: rest) =
      ((p.happen first).1 ++ ((p.happen first).2.observe rest).1,
        ((p.happen first).2.observe rest).2) :=
  rfl

/-- What was noted before and what is noted on the way accounts for all that is cached. -/
theorem fetched_observe {start : RegionStore} {noted : List Fetch}
    (hp : p.InCustody (UnitOfWork.EachView (Staged.Fetched noted))
      (RegionStore.Fetched start noted)) (events : List PoolEvent) :
    (p.observe events).2.InCustody
      (UnitOfWork.EachView (Staged.Fetched (noted ++ (p.observe events).1)))
      (RegionStore.Fetched start (noted ++ (p.observe events).1)) := by
  induction events generalizing p noted with
  | nil => simpa [observe] using hp
  | cons first rest ih =>
    have hmore : noted ⊆ noted ++ (p.happen first).1 := List.subset_append_left _ _
    have hbefore : p.InCustody
        (UnitOfWork.EachView (Staged.Fetched (noted ++ (p.happen first).1)))
        (RegionStore.Fetched start (noted ++ (p.happen first).1)) :=
      ⟨fun i => (hp.executors i).imp fun u hu id v hv => (hu id v hv).mono hmore,
        hp.regions.mono hmore⟩
    have hafter := (custody_fetched start (noted ++ (p.happen first).1)).happen
      (fun r calls hstore => hstore.setRefusing r calls) hbefore first.on_true
      fun f hf _ _ _ hsupplies => ⟨f, List.mem_append_right _ hf, hsupplies⟩
    rw [observe_cons, ← List.append_assoc]
    exact ih hafter

theorem within_observe {regions : List RegionRef} (hsep : Separate regions)
    (hp : p.InCustody (·.Within regions) fun _ => True) {events : List PoolEvent}
    (hon : ∀ event ∈ events, event.On (· ∈ regions) fun _ => True) :
    (p.observe events).2.InCustody (·.Within regions) fun _ => True := by
  induction events generalizing p with
  | nil => exact hp
  | cons first rest ih =>
    obtain ⟨hfirst, hrest⟩ := List.forall_mem_cons.1 hon
    have hafter := (custody_within hsep).happen (fun _ _ _ => trivial) hp hfirst
      fun _ _ _ _ _ _ => trivial
    exact ih hafter hrest

/-- All that is cached after the events was fetched for it in the course of them. If each region has
an id of its own, a select with output parameters is turned away before anything is fetched for it,
whatever is cached under its key. -/
structure CachesFetched (p : Pool) (events : List PoolEvent) : Prop where
  staged : ∀ i, ((p.observe events).2.executors i).Every
    (UnitOfWork.EachView (Staged.Fetched (p.observe events).1))
  stored : ∀ r, ((p.observe events).2.shared.regions.storage r).Only
    (Supplied (p.observe events).1 (p.shared.regions.Shares · r))
  found : ∀ r key rows,
    ((p.observe events).2.shared.regions.storage r).get? key = .ok (some rows) →
      ∃ rows', Supplied (p.observe events).1 (p.shared.regions.Shares · r) key rows' ∧
        (Value.OrderedItems rows' → rows' = rows)
  rejected : ∀ regions, Separate regions →
    (∀ event ∈ events, event.On (· ∈ regions) fun _ => True) →
    ∀ i work delegate, (p.observe events).2.executors i = .caching work delegate →
      ∀ (statement : MappedStatement) (region : RegionRef), statement.cache = some region →
        region ∈ regions → statement.useCache = true → statement.hasOutParams = true →
          ∀ parameter bounds key,
            ((p.observe events).2.executors i).serve (p.observe events).2.shared
                (.keyed statement parameter bounds none key) =
              ([], .error (.error (.cache (.outParamsNotCacheable statement.id))),
                .caching (work.flushedBy statement) delegate, (p.observe events).2.shared)

/-- From executors and regions that start empty, all that is ever cached was fetched for it. -/
theorem cached_rows_were_fetched (hexecutors : ∀ i, (p.executors i).Every (· = .empty))
    (hregions : ∀ r, (p.shared.regions.storage r).size = 0) (events : List PoolEvent) :
    p.CachesFetched events := by
  have hstart : p.InCustody (UnitOfWork.EachView (Staged.Fetched []))
      (RegionStore.Fetched p.shared.regions []) :=
    ⟨fun i => (hexecutors i).imp fun _ hu => hu ▸ .empty _, .of_size hregions⟩
  obtain ⟨hstaged, hstored⟩ := fetched_observe hstart events
  rw [List.nil_append] at hstaged hstored
  refine ⟨hstaged, hstored.entries, fun r key rows hget => (hstored.entries r).of_get? hget, ?_⟩
  intro regions hsep hon i work delegate hx statement region hcache hregion huse hout parameter
    bounds key
  have hwithin : p.InCustody (·.Within regions) fun _ => True :=
    ⟨fun i => (hexecutors i).imp fun _ hu => hu ▸ UnitOfWork.within_empty regions, trivial⟩
  have hlast := (within_observe hsep hwithin hon).executors i
  rw [hx] at hlast ⊢
  exact Executor.serve_outParams hsep hlast.1 delegate hcache hregion huse hout parameter bounds
    key _

/-- A callable is turned away under a key that another executor has published rows for. -/
theorem cached_key_is_turned_away :
    let users : RegionRef := ⟨0, "users"⟩
    let find := MappedStatement.cachedSelect "find" users []
    let total := MappedStatement.callableWithOutParam "total" users
    let key := CacheKey.ofComponents [.text "shared"]
    let start := cached (fun _ => "development")
      { regions := (RegionStore.empty.openMemory "users").2
        source := DataSource.empty.setRows "find" [.int 1] }
    let events : List PoolEvent :=
      [.request 0 (.keyed find .null {} none key), .request 0 (.call (.commit true))]
    let last := (start.observe events).2
    start.CachesFetched events ∧
      (last.shared.regions.storage users).get? key = .ok (some [.int 1]) ∧
      (last.executors 1).serve last.shared (.keyed total .null {} none key) =
        ([], .error (.error (.cache (.outParamsNotCacheable "total"))), last.executors 1,
          last.shared) := by
  intro users find total key start events last
  have hexecutors : ∀ i, (start.executors i).Every (· = .empty) := fun _ => ⟨rfl, trivial⟩
  have hregions : ∀ r, (start.shared.regions.storage r).size = 0 := by
    intro r
    exact congrArg Storage.size (RegionStore.storage_openMemory .empty "users" r)
  have hcached : start.CachesFetched events :=
    cached_rows_were_fetched hexecutors hregions events
  refine ⟨hcached, by decide +kernel, ?_⟩
  have hon : ∀ event ∈ events, event.On (· ∈ [users]) fun _ => True := by
    intro event hevent
    rcases List.mem_pair.1 hevent with rfl | rfl
    · rintro _ ⟨⟩ r ⟨⟩
      exact ⟨List.mem_singleton_self users, fun _ => trivial⟩
    · rintro _ ⟨⟩
  exact hcached.rejected [users] (separate_singleton users) hon 1 .empty
    (.direct { environment := "development" }) rfl total users rfl (List.mem_singleton_self users)
    rfl rfl .null {} key

end Pool

end DataMapper
