import DataMapper.Proofs.Executor.Holds
import DataMapper.Proofs.Key
import Mathlib.Logic.Function.Basic
/-!
# Transparency of caching

Executors behind caches and bare connections, run through the same calls on a data source with fixed
rows, return the same. Every entry, staged or published, holds the rows that its select would be
answered with, and no call leaves any other entry behind, whether it fails or not.
-/

namespace DataMapper

/-- Any number of executors over what they share. -/
structure Pool where
  executors : Nat → Executor
  shared : Shared

/-- The steps of a pool: a call of one executor, or a change of what fails. -/
inductive PoolStep where
  | call (executor : Nat) (call : ExecutorCall)
  | fail (point : FailPoint)
  | heal (point : FailPoint)
  deriving DecidableEq

namespace Pool

/-- Connections without caches. -/
def bare (environments : Nat → String) (shared : Shared) : Pool :=
  ⟨fun i => .direct { environment := environments i }, shared⟩

/-- Connections behind caches, with nothing staged. -/
def cached (environments : Nat → String) (shared : Shared) : Pool :=
  ⟨fun i => .caching .empty (.direct { environment := environments i }), shared⟩

def step (p : Pool) : PoolStep → Outcome ExecutorReply × Pool
  | .call i call =>
    let (outcome, x, shared) := (p.executors i).perform p.shared call
    (outcome, ⟨Function.update p.executors i x, shared⟩)
  | .fail point =>
    (.ok .done, { p with shared := { p.shared with source := p.shared.source.fail point } })
  | .heal point =>
    (.ok .done, { p with shared := { p.shared with source := p.shared.source.heal point } })

/-- The answers to the steps of a run, and the pool after it. -/
def run (p : Pool) : List PoolStep → List (Outcome ExecutorReply) × Pool
  | [] => ([], p)
  | first :: rest =>
    let (reply, p) := p.step first
    let (replies, p) := p.run rest
    (reply :: replies, p)

/-- Statements cache in the given regions only, an executor is open when it runs a select, what a
region may cache has rows of its own and no output parameters, and selects are not made to fail. -/
def Admitted (regions : List RegionRef) (p : Pool) : PoolStep → Prop
  | .call i (.query statement _ _ handler) =>
    (p.executors i).isClosed = false ∧ (∀ r, statement.cache = some r → r ∈ regions) ∧
      (statement.cache.isSome = true → statement.useCache = true → handler = none →
        statement.hasOutParams = false ∧
          ∃ rows, p.shared.source.rows.get? statement.id = some rows ∧
            rows.length ≤ CacheKey.maxBound)
  | .call _ (.queryCursor statement _ _) | .call _ (.update statement _) =>
    ∀ r, statement.cache = some r → r ∈ regions
  | .fail point => point ≠ .query
  | _ => True

/-- Every step of the run is admitted when it is taken. -/
def Admits (regions : List RegionRef) (p : Pool) : List PoolStep → Prop
  | [] => True
  | first :: rest => p.Admitted regions first ∧ (p.step first).2.Admits regions rest

end Pool

/-! ## Executors with sound entries -/

variable {regions : List RegionRef} {table : NameMap Rows} {environment : String}

/-- A cache over a connection, all of whose staged entries are sound, and a bare connection in the
same state. -/
inductive Executor.Mirrors (regions : List RegionRef) (table : NameMap Rows)
    (environment : String) : Executor → Executor → Prop where
  | mk {work : UnitOfWork} {c c' : Connection} (within : work.Within regions)
      (sound : ∀ r ∈ regions, (work.viewOf r).All (CacheKey.Sound table))
      (environment_eq : c.environment = environment) (state : c.SameState c') :
      Mirrors regions table environment (.caching work (.direct c)) (.direct c')

/-- Regions in memory, all of whose entries are sound, over a source that answers as the other. -/
structure Shared.Mirrors (regions : List RegionRef) (table : NameMap Rows) (s t : Shared) : Prop
    extends Shared.SameAnswers s t where
  memory : ∀ r ∈ regions, s.regions.InMemory r
  sound : ∀ r ∈ regions, Contents.All (CacheKey.Sound table) (s.regions.contents r)
  rows : s.source.rows = table
  query : s.source.fails .query = false

namespace Executor

variable {x y : Executor} {s t : Shared} {work : UnitOfWork} {c c' : Connection}

/-- Calls with one answer that leave sound entries behind. -/
structure Transparent (regions : List RegionRef) (table : NameMap Rows) (environment : String)
    {α : Type} (p q : α × Executor × Shared) : Prop where
  answer : p.1 = q.1
  executors : p.2.1.Mirrors regions table environment q.2.1
  shared : p.2.2.Mirrors regions table q.2.2

theorem Mirrors.holds (h : x.Mirrors regions table environment y) :
    x.Holds regions environment (Staged.All (CacheKey.Sound table)) := by
  obtain ⟨hwork, hsound, henvironment, _⟩ := h
  exact ⟨hwork, hsound, henvironment⟩

theorem Holds.mirrors (h : x.Holds regions environment (Staged.All (CacheKey.Sound table)))
    (hc : x.connection.SameState c') : x.Mirrors regions table environment (direct c') := by
  obtain ⟨hwork, hsound, henvironment⟩ := h
  exact ⟨hwork, hsound, henvironment, hc⟩

/-! ## Answers of caches and of bare connections -/

/-- One answer, from connections that stay in the same state over sources that answer alike. -/
structure Passes {α : Type} (p q : α × Executor × Shared) : Prop where
  answer : p.1 = q.1
  connections : ∃ c₁, q.2.1 = direct c₁ ∧ p.2.1.connection.SameState c₁
  shared : p.2.2.SameAnswers q.2.2

theorem Passes.reply {α : Type} {p q : Except Error α × Executor × Shared} (h : Passes p q)
    (wrap : α → ExecutorReply) : Passes (Executor.reply wrap p) (Executor.reply wrap q) :=
  ⟨congrArg (fun result => (Outcome.ofExcept result).map wrap) h.answer, h.connections, h.shared⟩

section Selects

variable {statement : MappedStatement} {key : CacheKey} (parameter : Value) (bounds : RowBounds)

/-- A select that passes the cache by. -/
theorem passes_passed (work : UnitOfWork) (hc : c.SameState c') (hs : s.SameAnswers t)
    (statement : MappedStatement) (handler : Option Handler) (key : CacheKey) :
    Passes (passed work ((direct c).queryWithKey statement parameter bounds handler key s))
      ((direct c').queryWithKey statement parameter bounds handler key t) := by
  obtain ⟨outcome, c₁, c₁', s₁, t₁, hx, hy, hc₁, hc₁', hanswers⟩ :=
    direct_queryWithKey_congr hc hs statement parameter bounds handler key
  rw [hx, hy]
  exact ⟨rfl, ⟨c₁', rfl, (hc₁.trans hc).trans hc₁'.symm⟩, hanswers⟩

/-- A select that is answered from a sound entry or else fetched. -/
theorem passes_lookup (hsep : Separate regions) (h : x.Mirrors regions table environment y)
    (hshared : s.Mirrors regions table t) (hopen : y.isClosed = false) {r : RegionRef}
    (hr : r ∈ regions) (hcache : statement.cache = some r) (huse : statement.useCache = true)
    (hout : statement.hasOutParams = false) {all : Rows}
    (hall : table.get? statement.id = some all)
    (hkey : CacheKey.forStatement statement parameter bounds environment = .ok key) :
    Passes (x.queryWithKey statement parameter bounds none key s)
      (y.queryWithKey statement parameter bounds none key t) := by
  obtain ⟨hwork, hsound, henvironment, hc⟩ := h
  rename_i work c c'
  obtain ⟨store, _, hquery⟩ := hwork.queryWithKey_eq hsep hcache hr huse hout
    (hshared.memory r hr) c parameter bounds key
  have hanswer : ∀ d : DataSource, d.rows = table → d.answer statement.id parameter = all := by
    intro d hd
    unfold DataSource.answer
    rw [hd, hall, Option.getD_some]
  have hfails : t.source.fails .query = false := (hshared.source.fails .query) ▸ hshared.query
  have htable : t.source.rows = table := hshared.source.rows.symm.trans hshared.rows
  have hright : (direct c').queryWithKey statement parameter bounds none key t =
      (.ok (bounds.slice all), direct (c'.remember key),
        { t with source := t.source.recordQuery statement.id parameter }) := by
    rw [queryWithKey, c'.select_eq hopen t.source hfails, hanswer t.source htable]
    rfl
  have hremembered := hc.trans (c'.sameState_remember key).symm
  have hrecorded : ∀ d : DataSource, (d.recordQuery statement.id parameter).SameAnswers d :=
    fun _ => ⟨rfl, rfl, rfl⟩
  rw [hquery, hright]
  cases hfound : (work.flushedBy statement).overlay r (s.regions.contents r) key with
  | some rows =>
    have hrows : CacheKey.Sound table key rows :=
      (UnitOfWork.all_flushedBy (hsound r hr) statement).overlay (fun _ => hshared.sound r hr) key
        rows hfound
    exact ⟨congrArg Except.ok (hrows.eq_slice hkey hall), ⟨c'.remember key, rfl, hremembered⟩,
      hshared.source.trans (hrecorded t.source).symm, hshared.journal⟩
  | none =>
    have hopenLeft : c.closed = false := hc.closed.trans hopen
    rw [c.select_eq hopenLeft s.source hshared.query, hanswer s.source hshared.rows]
    exact ⟨rfl, ⟨c'.remember key, rfl, (c.sameState_remember key).trans hremembered⟩,
      ((hrecorded s.source).trans hshared.source).trans (hrecorded t.source).symm,
      hshared.journal⟩

theorem passes_query (hsep : Separate regions) (h : x.Mirrors regions table environment y)
    (hshared : s.Mirrors regions table t) (hopen : y.isClosed = false)
    (hstatement : ∀ r, statement.cache = some r → r ∈ regions) (handler : Option Handler)
    (hcached : statement.cache.isSome = true → statement.useCache = true → handler = none →
      statement.hasOutParams = false ∧
        ∃ all, table.get? statement.id = some all ∧ all.length ≤ CacheKey.maxBound) :
    Passes (x.query statement parameter bounds handler s)
      (y.query statement parameter bounds handler t) := by
  have hmirrors := h
  obtain ⟨hwork, hsound, henvironment, hc⟩ := h
  rename_i work c c'
  have hkeys : (caching work (direct c)).keyFor statement parameter bounds =
      CacheKey.forStatement statement parameter bounds environment :=
    congrArg (CacheKey.forStatement statement parameter bounds) henvironment
  have hkeys' : (direct c').keyFor statement parameter bounds =
      CacheKey.forStatement statement parameter bounds environment :=
    congrArg (CacheKey.forStatement statement parameter bounds)
      (hc.environment.symm.trans henvironment)
  unfold Executor.query
  rw [hkeys, hkeys']
  cases hkey : CacheKey.forStatement statement parameter bounds environment with
  | error e => exact ⟨rfl, ⟨c', rfl, hc⟩, hshared.toSameAnswers⟩
  | ok key =>
    dsimp only
    cases hcache : statement.cache with
    | none =>
      rw [queryWithKey_of_uncached work _ parameter bounds handler key s hcache]
      exact passes_passed parameter bounds work hc hshared.toSameAnswers statement handler key
    | some r =>
      by_cases hpass : (!statement.useCache || handler.isSome) = true
      · rw [queryWithKey_of_passed _ parameter bounds key s hcache
          (hwork.flushIfRequired_eq hsep hstatement) hpass]
        exact passes_passed parameter bounds _ hc hshared.toSameAnswers statement handler key
      · obtain ⟨huse, rfl⟩ : statement.useCache = true ∧ handler = none := by simpa using hpass
        obtain ⟨hout, all, hall, _⟩ := hcached (by rw [hcache]; rfl) huse rfl
        exact passes_lookup parameter bounds hsep hmirrors hshared hopen (hstatement r hcache)
          hcache huse hout hall hkey

end Selects

/-- A call that the cache hands down to the connection. -/
theorem passes_delegated {α : Type} (work : UnitOfWork) (hs : s.SameAnswers t)
    {p q : Except Error α × Connection × DataSource} (h : Connection.Agree p q)
    (store : RegionStore) :
    Passes (p.1, caching work (direct p.2.1), { s with source := p.2.2, regions := store })
      (q.1, direct q.2.1, { t with source := q.2.2 }) :=
  ⟨h.answer, ⟨q.2.1, rfl, h.state⟩, h.source, hs.journal⟩

theorem passes_commit (hsep : Separate regions) (hwork : work.Within regions)
    (hmemory : ∀ r ∈ regions, s.regions.InMemory r) (hs : s.SameAnswers t) (hc : c.SameState c')
    (required : Bool) :
    Passes ((caching work (direct c)).commit required s) ((direct c').commit required t) := by
  have hcommit := Connection.commit_congr hc hs.source required
  by_cases hmade : (c.commit s.source required).1 = .ok true
  · obtain ⟨store, hpublish, _⟩ := commit_made_eq hsep hwork hmemory hmade
    rw [hpublish, ← hmade]
    exact passes_delegated work.rollbackAll hs hcommit store
  · rw [commit_of_not_made work (x := direct c) hmade]
    exact passes_delegated work hs hcommit s.regions

theorem passes_close (hsep : Separate regions) (hwork : work.Within regions)
    (hmemory : ∀ r ∈ regions, s.regions.InMemory r) (hs : s.SameAnswers t) (hc : c.SameState c')
    (forceRollback : Bool) :
    Passes ((caching work (direct c)).close forceRollback s)
      ((direct c').close forceRollback t) := by
  have hagree := Connection.close_congr hc hs.source forceRollback
  obtain ⟨store, hclose, _⟩ := close_eq hsep hwork hmemory c forceRollback
  rw [hclose]
  exact passes_delegated work.rollbackAll hs hagree store

/-- Whatever is called but a select, caching does not show. -/
theorem Mirrors.passes_perform (hsep : Separate regions)
    (h : x.Mirrors regions table environment y) (hshared : s.Mirrors regions table t)
    {call : ExecutorCall} (hcall : call.On regions)
    (hselect : ∀ statement parameter bounds handler,
      call ≠ .query statement parameter bounds handler) :
    Passes (x.perform s call) (y.perform t call) := by
  have hmemory := hshared.memory
  have hs := hshared.toSameAnswers
  obtain ⟨hwork, hsound, henvironment, hc⟩ := h
  rename_i work c c'
  cases call with
  | query statement parameter bounds handler => exact absurd rfl (hselect _ _ _ _)
  | queryCursor statement parameter bounds =>
    obtain ⟨hanswer, hsource⟩ := Connection.select_congr hc hs.source statement parameter bounds
    have hcursor : Passes ((caching work (direct c)).queryCursor statement parameter bounds s)
        ((direct c').queryCursor statement parameter bounds t) := by
      unfold Executor.queryCursor
      rw [hwork.flushIfRequired_eq hsep hcall]
      exact ⟨hanswer, ⟨c', rfl, hc⟩, hsource, hs.journal⟩
    exact hcursor.reply .rows
  | update statement parameter =>
    have hagree := Connection.update_congr hc hs.source statement parameter
    have hupdate : Passes ((caching work (direct c)).update statement parameter s)
        ((direct c').update statement parameter t) := by
      unfold Executor.update
      rw [hwork.flushIfRequired_eq hsep hcall]
      exact passes_delegated _ hs hagree s.regions
    exact hupdate.reply .count
  | flushStatements =>
    obtain ⟨hanswer, hsource⟩ := Connection.flush_congr hc hs.source
    have hflush : Passes ((caching work (direct c)).flushStatements s)
        ((direct c').flushStatements t) := ⟨hanswer, ⟨c', rfl, hc⟩, hsource, hs.journal⟩
    exact hflush.reply _
  | commit required => exact (passes_commit hsep hwork hmemory hs hc required).reply _
  | rollback required =>
    have hagree := Connection.rollback_congr hc hs.source required
    exact (passes_delegated _ hs hagree s.regions).reply _
  | close forceRollback => exact (passes_close hsep hwork hmemory hs hc forceRollback).reply _
  | clearLocalCache => exact ⟨rfl, ⟨c'.forget, rfl, hc.environment, hc.closed⟩, hs⟩

/-! ## Sound entries -/

/-- A call that answers as a bare connection does, and stages only sound entries. -/
theorem Mirrors.transparent (hsep : Separate regions) (h : x.Mirrors regions table environment y)
    (hshared : s.Mirrors regions table t) {call : ExecutorCall} (hcall : call.On regions)
    (hput : ∀ statement parameter bounds key rows,
      call = .query statement parameter bounds none →
      statement.cache.isSome = true → statement.useCache = true →
      CacheKey.forStatement statement parameter bounds environment = .ok key →
      (x.connection.select s.source statement parameter bounds).1 = .ok rows →
      CacheKey.Sound table key rows)
    (hpasses : Passes (x.perform s call) (y.perform t call)) :
    Transparent regions table environment (x.perform s call) (y.perform t call) := by
  obtain ⟨hholds, hmemory, hsource⟩ := h.holds.perform hsep hshared.memory hcall
    (fun v _ => v.all_clear) (fun _ v _ => v.all_reset)
    fun statement parameter bounds key rows hquery hcache huse hkey hselect v hv =>
      hv.put (hput statement parameter bounds key rows hquery hcache huse hkey hselect)
  have hsound : ∀ r ∈ regions,
      Contents.All (CacheKey.Sound table) ((x.perform s call).2.2.regions.contents r) := by
    intro r hr
    by_cases hpublishes : call.Publishes x s.source
    · obtain ⟨hwork, hviews, _, _⟩ := h
      rw [contents_perform_of_publishes hsep hwork hshared.memory hpublishes r hr]
      exact (hviews r hr).overlay fun _ => hshared.sound r hr
    · rw [(x.sameEntries_perform s hpublishes).contents r]
      exact hshared.sound r hr
  obtain ⟨hanswer, ⟨c₁, hdirect, hstate⟩, hanswers⟩ := hpasses
  exact ⟨hanswer, hdirect ▸ hholds.mirrors hstate, hanswers, hmemory, hsound,
    hsource.rows.trans hshared.rows, (hsource.fails .query).trans hshared.query⟩

/-- A bare connection answers a select with the rows of the source, cut by the bounds. -/
theorem Mirrors.bare_query (h : x.Mirrors regions table environment y)
    (hshared : s.Mirrors regions table t) (hopen : y.isClosed = false)
    {statement : MappedStatement} {parameter : Value} {bounds : RowBounds} {key : CacheKey}
    (hkey : CacheKey.forStatement statement parameter bounds environment = .ok key) :
    (y.query statement parameter bounds none t).1 =
      .ok (bounds.slice (t.source.answer statement.id parameter)) := by
  have hquery : t.source.fails .query = false := (hshared.source.fails .query) ▸ hshared.query
  obtain ⟨-, -, henvironment, hc⟩ := h
  rename_i c c'
  have hkeyFor : (direct c').keyFor statement parameter bounds = .ok key :=
    (congrArg (CacheKey.forStatement statement parameter bounds)
      (hc.environment.symm.trans henvironment)).trans hkey
  rw [Executor.query, hkeyFor]
  dsimp only
  rw [Executor.queryWithKey, c'.select_eq hopen t.source hquery]
  rfl

end Executor

/-! ## Runs -/

namespace Pool

variable {p q : Pool} {environments : Nat → String}

/-- Cached executors and bare connections, number by number. -/
structure Mirrors (regions : List RegionRef) (table : NameMap Rows) (environments : Nat → String)
    (p q : Pool) : Prop where
  executors : ∀ i, (p.executors i).Mirrors regions table (environments i) (q.executors i)
  shared : p.shared.Mirrors regions table q.shared

theorem mirrors_cached (environments : Nat → String) {shared : Shared}
    (hregions : ∀ r ∈ regions,
      shared.regions.InMemory r ∧ shared.regions.contents r = fun _ => none)
    (hquery : shared.source.fails .query = false) :
    Mirrors regions shared.source.rows environments (cached environments shared)
      (bare environments shared) := by
  refine ⟨fun i => ⟨UnitOfWork.within_empty regions, fun r _ => Staged.all_fresh r, rfl, .refl _⟩,
    .refl shared, fun r hr => (hregions r hr).1, fun r hr key rows hrows => ?_, rfl, hquery⟩
  have hempty := (hregions r hr).2
  change shared.regions.contents r key = some rows at hrows
  simp [hempty] at hrows

theorem Mirrors.perform (hsep : Separate regions) (h : Mirrors regions table environments p q)
    {i : Nat} {call : ExecutorCall} (hcall : q.Admitted regions (.call i call)) :
    Executor.Transparent regions table (environments i)
      ((p.executors i).perform p.shared call) ((q.executors i).perform q.shared call) := by
  have hexecutor := h.executors i
  have hdelegated : call.On regions →
      (∀ statement parameter bounds handler, call ≠ .query statement parameter bounds handler) →
      Executor.Transparent regions table (environments i)
        ((p.executors i).perform p.shared call) ((q.executors i).perform q.shared call) :=
    fun hon hselect => hexecutor.transparent hsep h.shared hon
      (fun _ _ _ _ _ hquery => absurd hquery (hselect _ _ _ _))
      (hexecutor.passes_perform hsep h.shared hon hselect)
  cases call with
  | query statement parameter bounds handler =>
    obtain ⟨hopen, hstatement, hcached⟩ := hcall
    rw [← h.shared.source.rows, h.shared.rows] at hcached
    have hpasses := Executor.passes_query parameter bounds hsep hexecutor h.shared hopen hstatement
      handler hcached
    refine hexecutor.transparent hsep h.shared hstatement ?_
      ⟨congrArg (Except.map ExecutorReply.rows) hpasses.answer, hpasses.connections,
        hpasses.shared⟩
    intro statement' parameter' bounds' key rows hquery hcache huse hkey hselect
    cases hquery
    obtain ⟨_, all, hall, hlength⟩ := hcached hcache huse rfl
    have hanswer : p.shared.source.answer statement.id parameter = all := by
      unfold DataSource.answer
      rw [h.shared.rows, hall, Option.getD_some]
    rw [Connection.eq_slice_of_select hselect, hanswer]
    exact CacheKey.sound_slice hkey hall hlength
  | queryCursor statement parameter bounds => exact hdelegated hcall fun _ _ _ _ h => nomatch h
  | update statement parameter => exact hdelegated hcall fun _ _ _ _ h => nomatch h
  | _ => exact hdelegated trivial fun _ _ _ _ h => nomatch h

theorem Mirrors.step (hsep : Separate regions) (h : Mirrors regions table environments p q)
    {step : PoolStep} (hstep : q.Admitted regions step) :
    (p.step step).1 = (q.step step).1 ∧
      Mirrors regions table environments (p.step step).2 (q.step step).2 := by
  cases step with
  | call i call =>
    obtain ⟨hanswer, hexecutors, hshared⟩ := h.perform hsep hstep
    refine ⟨hanswer, fun j => ?_, hshared⟩
    by_cases hj : j = i
    · subst hj
      simpa [Pool.step] using hexecutors
    · simpa [Pool.step, Function.update_of_ne hj] using h.executors j
  | fail point =>
    have hfails : (p.shared.source.fail point).fails .query = p.shared.source.fails .query :=
      p.shared.source.fails_fail_of_ne (Ne.symm hstep)
    exact ⟨rfl, h.executors, ⟨h.shared.source.fail point, h.shared.journal⟩, h.shared.memory,
      h.shared.sound, h.shared.rows, hfails.trans h.shared.query⟩
  | heal point =>
    exact ⟨rfl, h.executors, ⟨h.shared.source.heal point, h.shared.journal⟩, h.shared.memory,
      h.shared.sound, h.shared.rows, DataSource.not_fails_heal h.shared.query point⟩

theorem Mirrors.run (hsep : Separate regions) (h : Mirrors regions table environments p q)
    {steps : List PoolStep} (hsteps : q.Admits regions steps) :
    (p.run steps).1 = (q.run steps).1 ∧
      Mirrors regions table environments (p.run steps).2 (q.run steps).2 := by
  induction steps generalizing p q with
  | nil => exact ⟨rfl, h⟩
  | cons first rest ih =>
    obtain ⟨hfirst, hrest⟩ := hsteps
    obtain ⟨hreply, hafter⟩ := h.step hsep hfirst
    obtain ⟨hreplies, hlast⟩ := ih hafter hrest
    exact ⟨List.cons_eq_cons.2 ⟨hreply, hreplies⟩, hlast⟩

/-! ## The parts of a run -/

theorem run_cons (p : Pool) (first : PoolStep) (rest : List PoolStep) :
    p.run (first :: rest) =
      ((p.step first).1 :: ((p.step first).2.run rest).1, ((p.step first).2.run rest).2) :=
  rfl

theorem length_run (p : Pool) (steps : List PoolStep) : (p.run steps).1.length = steps.length := by
  induction steps generalizing p with
  | nil => rfl
  | cons first rest ih => exact congrArg Nat.succ (ih _)

theorem run_append (p : Pool) (before after : List PoolStep) :
    p.run (before ++ after) =
      ((p.run before).1 ++ ((p.run before).2.run after).1, ((p.run before).2.run after).2) := by
  induction before generalizing p with
  | nil => rfl
  | cons first rest ih =>
    rw [List.cons_append, run_cons, ih, run_cons]
    rfl

theorem admits_append {before after : List PoolStep}
    (h : p.Admits regions (before ++ after)) :
    p.Admits regions before ∧ (p.run before).2.Admits regions after := by
  induction before generalizing p with
  | nil => exact ⟨trivial, h⟩
  | cons first rest ih =>
    obtain ⟨hfirst, hrest⟩ := h
    obtain ⟨hbefore, hafter⟩ := ih hrest
    exact ⟨⟨hfirst, hbefore⟩, hafter⟩

/-- On a data source with fixed rows, caching is transparent: every run through caches that start
empty returns the same and hands out the same rows as the run without caches. So a select is
answered with the rows of its statement, cut by its own bounds, whatever entry the answer is taken
from. -/
theorem caching_is_transparent (hsep : Separate regions) {shared : Shared}
    (hregions : ∀ r ∈ regions,
      shared.regions.InMemory r ∧ shared.regions.contents r = fun _ => none)
    (hquery : shared.source.fails .query = false) (environments : Nat → String)
    {steps : List PoolStep} (hsteps : (bare environments shared).Admits regions steps) :
    ((cached environments shared).run steps).1 = ((bare environments shared).run steps).1 ∧
      ((cached environments shared).run steps).2.shared.journal =
        ((bare environments shared).run steps).2.shared.journal ∧
      ∀ before i statement parameter bounds after key,
        steps = before ++ .call i (.query statement parameter bounds none) :: after →
        CacheKey.forStatement statement parameter bounds (environments i) = .ok key →
          ((cached environments shared).run steps).1[before.length]? =
            some (.ok (.rows (bounds.slice (shared.source.answer statement.id parameter)))) := by
  have hstart := mirrors_cached environments hregions hquery
  obtain ⟨hreplies, hlast⟩ := hstart.run hsep hsteps
  refine ⟨hreplies, hlast.shared.journal, ?_⟩
  intro before i statement parameter bounds after key hsplit hkey
  subst hsplit
  obtain ⟨hbefore, hselect, _⟩ := admits_append hsteps
  obtain ⟨_, hmirrors⟩ := hstart.run hsep hbefore
  have hlength := (bare environments shared).length_run before
  have hrows : ((bare environments shared).run before).2.shared.source.answer statement.id
      parameter = shared.source.answer statement.id parameter := by
    unfold DataSource.answer
    rw [← hmirrors.shared.source.rows, hmirrors.shared.rows]
  rw [hreplies, run_append, List.getElem?_append_right (by omega), hlength, Nat.sub_self, ← hrows]
  have hanswer := (hmirrors.executors i).bare_query hmirrors.shared hselect.1 hkey
  exact congrArg (fun outcome => some (outcome.map ExecutorReply.rows)) hanswer

/-- Two executors share an entry under bounds that one key stands for, around a failed commit of a
statement that flushes. -/
theorem shared_entry_is_transparent :
    let users : RegionRef := ⟨0, "users"⟩
    let find := MappedStatement.cachedSelect "find" users []
    let touch := MappedStatement.flushingUpdate "touch" users
    let beyond : RowBounds := { offset := 1, limit := 9223372036854775808 }
    let shared : Shared :=
      { regions := (RegionStore.empty.openMemory "users").2
        source := DataSource.empty.setRows "find" [.int 1, .int 2] }
    let environments := fun _ : Nat => "development"
    let steps : List PoolStep :=
      [.call 0 (.query find .null { offset := 1 } none), .call 0 (.commit true),
        .call 1 (.update touch .null), .fail .commit, .call 1 (.commit true),
        .call 1 (.rollback true), .call 1 (.query find .null beyond none),
        .call 1 (.close false), .call 1 (.update touch .null)]
    (bare environments shared).Admits [users] steps ∧
      ((cached environments shared).run steps).1 = ((bare environments shared).run steps).1 ∧
      ((cached environments shared).run steps).1[6]? = some (.ok (.rows [.int 2])) := by
  intro users find touch beyond shared environments steps
  have hsep : Separate [users] := ⟨by decide, by decide⟩
  have hregions : ∀ r ∈ [users],
      shared.regions.InMemory r ∧ shared.regions.contents r = fun _ => none := by
    intro r hr
    rw [List.mem_singleton.1 hr]
    exact ⟨RegionStore.inMemory_openMemory .empty "users",
      RegionStore.contents_openMemory .empty "users"⟩
  have hcached : ∀ statement : MappedStatement, statement.cache = some users →
      ∀ r, statement.cache = some r → r ∈ [users] := by
    intro statement hcache r hr
    rw [hcache] at hr
    cases hr
    exact List.mem_singleton_self users
  have hselect : ∀ (p : Pool) (i : Nat) (bounds : RowBounds),
      (p.executors i).isClosed = false →
      p.shared.source.rows.get? "find" = some [.int 1, .int 2] →
        p.Admitted [users] (.call i (.query find .null bounds none)) :=
    fun p i bounds hopen hrows =>
      ⟨hopen, hcached find rfl, fun _ _ _ => ⟨rfl, _, hrows, by decide⟩⟩
  have hsteps : (bare environments shared).Admits [users] steps := by
    refine ⟨?_, trivial, ?_, ?_, trivial, trivial, ?_, trivial, ?_, trivial⟩
    · exact hselect _ 0 _ rfl (by decide +kernel)
    · exact hcached touch rfl
    · exact fun h => nomatch h
    · exact hselect _ 1 beyond (by decide +kernel) (by decide +kernel)
    · exact hcached touch rfl
  obtain ⟨hreplies, _, hselected⟩ :=
    caching_is_transparent hsep hregions (by decide +kernel) environments hsteps
  refine ⟨hsteps, hreplies, ?_⟩
  exact hselected (steps.take 6) 1 find .null beyond (steps.drop 7) _ rfl rfl

end Pool

end DataMapper
