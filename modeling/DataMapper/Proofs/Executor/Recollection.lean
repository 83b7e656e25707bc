import DataMapper.Proofs.Configuration
import DataMapper.Proofs.Executor.Holds
import DataMapper.Proofs.Key
/-!
# What is known to a session

Rows that were answered to a cached select are known from then on: staged at first, and in the
region once the session has committed. As long as nothing is cleared or rolled back, a select finds
what is known under its key, and only a select under a new key comes to the source.
-/

namespace DataMapper

/-- Rows by statement and key. -/
abbrev Recollection := String → Contents

namespace Recollection

variable {known : Recollection} {id id' : String} {key key' : CacheKey} {rows : Rows}

def nothing : Recollection :=
  fun _ _ => none

/-- What is known once these rows were answered. -/
def learn (known : Recollection) (id : String) (key : CacheKey) (rows : Rows) : Recollection :=
  fun id' key' => if id' = id ∧ key' = key then some rows else known id' key'

theorem learn_self (known : Recollection) (id : String) (key : CacheKey) (rows : Rows) :
    known.learn id key rows id key = some rows :=
  if_pos ⟨rfl, rfl⟩

theorem learn_of_ne (known : Recollection) (rows : Rows) (h : ¬ (id' = id ∧ key' = key)) :
    known.learn id key rows id' key' = known id' key' :=
  if_neg h

/-- Nothing is learned from an answer that was known. -/
theorem learn_known (h : known id key = some rows) : known.learn id key rows = known := by
  funext id' key'
  by_cases heq : id' = id ∧ key' = key
  · obtain ⟨rfl, rfl⟩ := heq
    rw [learn_self, h]
  · exact learn_of_ne known rows heq

/-- Where the rows of a select come from: they were known under its key, or else the source was
queried for them. -/
inductive Answers (known : Recollection) (id : String) (key : CacheKey) (parameter : Value)
    (before : DataSource) : Rows → DataSource → Prop where
  | known {rows : Rows} (h : known id key = some rows) :
    Answers known id key parameter before rows before
  | queried {rows : Rows} (h : known id key = none) :
    Answers known id key parameter before rows (before.recordQuery id parameter)

end Recollection

/-! ## Keys of statements -/

/-- The select of this statement is answered by the region, which it does not clear. -/
structure MappedStatement.AnsweredBy (statement : MappedStatement) (r : RegionRef) : Prop where
  cache : statement.cache = some r
  useCache : statement.useCache = true
  clearsNothing : statement.flushCacheRequired = false
  inputOnly : statement.hasOutParams = false

namespace Catalog

variable {c : Catalog} {id id' : String} {statement : MappedStatement} {r r' : RegionRef}
  {key : CacheKey}

theorem Settled.get?_of_statement (h : c.Settled) (hfound : c.statement id = .ok statement) :
    statement.id = id ∧ ∀ r, statement.cache = some r → c.regions.get? r.id = some r := by
  unfold Catalog.statement at hfound
  cases hget : c.statements.get? id with
  | none =>
    rw [hget] at hfound
    cases hfound
  | some known =>
    rw [hget] at hfound
    cases hfound
    exact h.statements id statement hget

/-- A select of the statement of this id looks up the key in the region. -/
inductive Keys (c : Catalog) (id : String) (r : RegionRef) (key : CacheKey) : Prop where
  | intro {statement : MappedStatement} {parameter : Value} {bounds : RowBounds}
    (found : c.statement id = .ok statement) (cache : statement.cache = some r)
    (made : CacheKey.forStatement statement parameter bounds c.settings.environmentId = .ok key)

/-- A key belongs to one statement, and so to one region. -/
theorem Keys.eq (hsettled : c.Settled) (h : c.Keys id r key) (h' : c.Keys id' r' key) :
    id = id' ∧ r = r' := by
  obtain ⟨hfound, hcache, hmade⟩ := h
  obtain ⟨hfound', hcache', hmade'⟩ := h'
  obtain ⟨hids, -⟩ := CacheKey.eq_of_forStatement hmade hmade'
  rw [(hsettled.get?_of_statement hfound).1, (hsettled.get?_of_statement hfound').1] at hids
  subst hids
  cases hfound.symm.trans hfound'
  exact ⟨rfl, Option.some.inj (hcache.symm.trans hcache')⟩

end Catalog

namespace UnitOfWork

variable {catalog : Catalog} {regions : List RegionRef} {known : Recollection} {u : UnitOfWork}
  {store store' : RegionStore} {id : String} {r : RegionRef} {key : CacheKey}

theorem overlay_modify (u : UnitOfWork) (hsep : Separate regions) {r' : RegionRef}
    (hr : r ∈ regions) (hr' : r' ∈ regions) (f : Staged → Staged) (base : Contents) :
    (u.modify r f).overlay r' base =
      if r' = r then (f (u.viewOf r)).overlay base else u.overlay r' base := by
  have hids : r'.id = r.id ↔ r' = r := ⟨hsep.ids r' hr' r hr, congrArg RegionRef.id⟩
  unfold overlay
  rw [viewOf_modify]
  simp only [hids]
  split_ifs <;> rfl

theorem flushedBy_of_answeredBy (u : UnitOfWork) {statement : MappedStatement}
    (h : statement.AnsweredBy r) : u.flushedBy statement = u := by
  unfold flushedBy
  rw [h.cache]
  dsimp only
  rw [h.clearsNothing]
  rfl

/-- Under the keys of statements the unit of work sees in these regions what is known, and nothing
else. -/
def Sees (catalog : Catalog) (regions : List RegionRef) (known : Recollection) (u : UnitOfWork)
    (store : RegionStore) : Prop :=
  ∀ id, ∀ r ∈ regions, ∀ key, catalog.Keys id r key →
    u.overlay r (store.contents r) key = known id key

theorem sees_empty (hempty : ∀ r ∈ regions, ∀ key, store.contents r key = none) :
    empty.Sees catalog regions .nothing store := by
  intro id r hr key _
  unfold overlay
  rw [viewOf_empty, Staged.overlay_fresh]
  exact hempty r hr key

theorem Sees.of_sameEntries (h : u.Sees catalog regions known store)
    (hstore : store'.SameEntries store) : u.Sees catalog regions known store' := by
  intro id r hr key hkey
  rw [hstore.contents]
  exact h id r hr key hkey

theorem Sees.lookedUp (h : u.Sees catalog regions known store) (hsep : Separate regions)
    (hr : r ∈ regions) : (u.modify r fun v => v).Sees catalog regions known store := by
  intro id' r' hr' key' hkey'
  rw [overlay_modify u hsep hr hr', ← h id' r' hr' key' hkey']
  split_ifs with hregion
  · rw [hregion]
    rfl
  · rfl

/-- Staged rows are seen under their key alone. -/
theorem Sees.put (h : u.Sees catalog regions known store) (hsettled : catalog.Settled)
    (hsep : Separate regions) (hr : r ∈ regions) (hkey : catalog.Keys id r key) (rows : Rows) :
    (u.modify r fun v => v.put key rows).Sees catalog regions (known.learn id key rows) store := by
  intro id' r' hr' key' hkey'
  have hseen := h id' r' hr' key' hkey'
  by_cases hsame : id' = id ∧ key' = key
  · obtain ⟨rfl, rfl⟩ := hsame
    obtain ⟨-, rfl⟩ := hkey.eq hsettled hkey'
    rw [Recollection.learn_self, overlay_modify u hsep hr hr', if_pos rfl, Staged.overlay_put]
    exact if_pos rfl
  · rw [Recollection.learn_of_ne known rows hsame, ← hseen, overlay_modify u hsep hr hr']
    split_ifs with hregion
    · have hother : key' ≠ key := by
        rintro rfl
        exact hsame ⟨(hkey'.eq hsettled hkey).1, rfl⟩
      rw [Staged.overlay_put, hregion]
      exact if_neg hother
    · rfl

/-- After it was published, the same is seen with nothing staged. -/
theorem Sees.published (h : u.Sees catalog regions known store)
    (hcontents : ∀ r ∈ regions, store'.contents r = u.overlay r (store.contents r)) :
    u.rollbackAll.Sees catalog regions known store' := by
  intro id r hr key hkey
  have hbase : u.rollbackAll.overlay r (store'.contents r) = store'.contents r := by
    unfold overlay
    rw [viewOf_rollbackAll, Staged.overlay_reset]
  rw [hbase, hcontents r hr]
  exact h id r hr key hkey

end UnitOfWork

/-! ## Selects and commits -/

namespace Connection

theorem queries_commit (c : Connection) (source : DataSource) (required : Bool) :
    (c.commit source required).2.2.queries = source.queries := by
  unfold commit
  split_ifs <;> rfl

end Connection

namespace Executor

variable {catalog : Catalog} {regions : List RegionRef} {known : Recollection} {x x' : Executor}
  {shared shared' : Shared} {id : String} {statement : MappedStatement} {parameter : Value}
  {bounds : RowBounds} {r : RegionRef} {key : CacheKey}

/-- One cache over a connection, which sees in these regions what is known. -/
inductive Recalls (catalog : Catalog) (regions : List RegionRef) (known : Recollection) :
    Executor → Shared → Prop where
  | intro {work : UnitOfWork} {c : Connection} {shared : Shared} (within : work.Within regions)
    (environment : c.environment = catalog.settings.environmentId)
    (memory : ∀ r ∈ regions, shared.regions.InMemory r)
    (sees : work.Sees catalog regions known shared.regions) :
    Recalls catalog regions known (caching work (direct c)) shared

theorem recalls_fresh (hmemory : ∀ r ∈ regions, shared.regions.InMemory r)
    (hempty : ∀ r ∈ regions, ∀ key, shared.regions.contents r key = none) :
    Recalls catalog regions .nothing
      (caching .empty (direct { environment := catalog.settings.environmentId })) shared :=
  .intro (UnitOfWork.within_empty regions) rfl hmemory (UnitOfWork.sees_empty hempty)

theorem Recalls.of_regions (h : Recalls catalog regions known x shared)
    (hregions : shared'.regions = shared.regions) : Recalls catalog regions known x shared' := by
  obtain ⟨hwithin, henvironment, hmemory, hsees⟩ := h
  exact .intro hwithin henvironment (by rwa [hregions]) (by rwa [hregions])

/-- A select that succeeds is answered with what is known under its key, or else it is one query of
the source, whose rows are known from then on. -/
theorem Recalls.queryWithKey (h : Recalls catalog regions known x shared)
    (hsettled : catalog.Settled) (hsep : Separate regions)
    (hfound : catalog.statement id = .ok statement) (hr : r ∈ regions)
    (hanswered : statement.AnsweredBy r)
    (hmade : CacheKey.forStatement statement parameter bounds catalog.settings.environmentId =
      .ok key)
    {rows : Rows} (hquery : x.queryWithKey statement parameter bounds none key shared =
      (.ok rows, x', shared')) :
    Recalls catalog regions (known.learn id key rows) x' shared' ∧
      known.Answers id key parameter shared.source rows shared'.source := by
  obtain ⟨hwithin, henvironment, hmemory, hsees⟩ := h
  rename_i work c
  have hkey : catalog.Keys id r key := ⟨hfound, hanswered.cache, hmade⟩
  obtain ⟨store, hstore, hlookup⟩ := hwithin.queryWithKey_eq hsep hanswered.cache hr
    hanswered.useCache hanswered.inputOnly (hmemory r hr) c parameter bounds key
  rw [work.flushedBy_of_answeredBy hanswered, hsees id r hr key hkey] at hlookup
  rw [hlookup] at hquery
  have hmemory' : ∀ r ∈ regions, store.InMemory r :=
    fun r hr => (hmemory r hr).of_sameEntries hstore
  have hlooked := (hsees.of_sameEntries hstore).lookedUp hsep hr
  have hwithin' := hwithin.modify hsep hr (f := fun v => v) fun _ => rfl
  cases hknown : known id key with
  | some rows' =>
    rw [hknown] at hquery
    cases hquery
    rw [Recollection.learn_known hknown]
    exact ⟨.intro hwithin' henvironment hmemory' hlooked, .known hknown⟩
  | none =>
    rw [hknown] at hquery
    dsimp only at hquery
    unfold Connection.select at hquery
    split_ifs at hquery
    · cases hquery
    · cases hquery
    · cases hquery
      have hput := hlooked.put hsettled hsep hr hkey
      rw [(hsettled.get?_of_statement hfound).1]
      exact ⟨.intro (hwithin'.modify hsep hr fun _ => rfl) henvironment hmemory' (hput _),
        .queried hknown⟩

theorem Recalls.query (h : Recalls catalog regions known x shared) (hsettled : catalog.Settled)
    (hsep : Separate regions) (hfound : catalog.statement id = .ok statement) (hr : r ∈ regions)
    (hanswered : statement.AnsweredBy r) {rows : Rows}
    (hquery : x.query statement parameter bounds none shared = (.ok rows, x', shared')) :
    ∃ key, CacheKey.forStatement statement parameter bounds catalog.settings.environmentId =
        .ok key ∧
      Recalls catalog regions (known.learn id key rows) x' shared' ∧
      known.Answers id key parameter shared.source rows shared'.source := by
  have henvironment : x.environment = catalog.settings.environmentId := by
    obtain ⟨-, henvironment, -, -⟩ := h
    exact henvironment
  unfold Executor.query keyFor at hquery
  rw [henvironment] at hquery
  cases hkey : CacheKey.forStatement statement parameter bounds
      catalog.settings.environmentId with
  | error e =>
    rw [hkey] at hquery
    cases hquery
  | ok key =>
    rw [hkey] at hquery
    exact ⟨key, rfl, h.queryWithKey hsettled hsep hfound hr hanswered hkey hquery⟩

/-- A commit is no query, and changes nothing of what is seen, whatever becomes of it. -/
theorem Recalls.commit (h : Recalls catalog regions known x shared) (hsep : Separate regions)
    (required : Bool) :
    Recalls catalog regions known (x.commit required shared).2.1 (x.commit required shared).2.2 ∧
      (x.commit required shared).2.2.source.queries = shared.source.queries := by
  obtain ⟨hwithin, henvironment, hmemory, hsees⟩ := h
  rename_i work c
  have hqueries := c.queries_commit shared.source required
  have henvironment' :=
    (c.commit_keeps shared.source required).1.environment.trans henvironment
  by_cases hmade : (c.commit shared.source required).1 = .ok true
  · obtain ⟨store, hcommit, hcontents, hmemory'⟩ := commit_made_eq hsep hwithin hmemory hmade
    rw [hcommit]
    exact ⟨.intro hwithin.rollbackAll henvironment' hmemory' (hsees.published hcontents), hqueries⟩
  · rw [commit_of_not_made work (x := direct c) hmade]
    exact ⟨.intro hwithin henvironment' hmemory hsees, hqueries⟩

end Executor

end DataMapper
