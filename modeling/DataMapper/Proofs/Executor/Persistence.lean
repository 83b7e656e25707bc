import DataMapper.Proofs.Executor.Units
import DataMapper.Proofs.Region.Persistence
/-!
# Executors over volumes

An executor gives the same answers over regions in memory as over volumes that stand for them, and
becomes the same, as long as what it publishes can be kept on volumes.
-/

namespace DataMapper

/-- Shared states that differ only in that the regions of the second are on volumes. -/
structure Shared.Persists (s t : Shared) : Prop where
  regions : s.regions.Persists t.regions
  source : s.source = t.source
  journal : s.journal = t.journal

theorem Shared.Persists.withSource {s t : Shared} (h : s.Persists t) (d : DataSource) :
    { s with source := d }.Persists { t with source := d } :=
  ⟨h.regions, rfl, h.journal⟩

theorem Shared.Persists.withRegions {s t : Shared} (h : s.Persists t) {store store' : RegionStore}
    (hstore : store.Persists store') :
    { s with regions := store }.Persists { t with regions := store' } :=
  ⟨hstore, h.source, h.journal⟩

/-! ## Units of work -/

namespace UnitOfWork

variable {store store' : RegionStore}

/-- Everything staged for regions in memory can be kept on volumes. -/
def Storable (store : RegionStore) (u : UnitOfWork) : Prop :=
  ∀ e ∈ u.views.entries, store.directory? e.2.region = none → e.2.batch.Storable

theorem get_persists (u : UnitOfWork) (h : store.Persists store') (r : RegionRef) (key : CacheKey) :
    (u.get store r key).1 = (u.get store' r key).1 ∧
      (u.get store r key).2.1 = (u.get store' r key).2.1 ∧
      (u.get store r key).2.2.Persists (u.get store' r key).2.2 := by
  unfold get
  cases u.view? r with
  | error e => exact ⟨rfl, rfl, h⟩
  | ok v =>
    have hfound : (v.get store key).1 = (v.get store' key).1 ∧
        (v.get store key).2.Persists (v.get store' key).2 := by
      unfold Staged.get
      cases v.staged.get? key with
      | some rows => exact ⟨rfl, h⟩
      | none =>
        dsimp only
        split_ifs
        · exact ⟨rfl, h⟩
        · exact h.get v.region key
    exact ⟨hfound.1, rfl, hfound.2⟩

theorem commitAll_persists {u : UnitOfWork} (hu : u.Storable store) (h : store.Persists store') :
    (u.commitAll store).1 = (u.commitAll store').1 ∧
      (u.commitAll store).2.1 = (u.commitAll store').2.1 ∧
      (u.commitAll store).2.2.Persists (u.commitAll store').2.2 := by
  -- the stores in between have the layout of the first one, by which `hu` judges the batches
  let R : RegionStore → RegionStore → Prop := fun s t => s.Persists t ∧ s.SameLayout store
  have hpublish : ∀ e ∈ u.views.entries, ∀ s t, R s t →
      (e.2.publish s).1 = (e.2.publish t).1 ∧ R (e.2.publish s).2 (e.2.publish t).2 := by
    intro e he s t ⟨hst, hlayout⟩
    have hafter := (e.2.sameLayout_publish s).trans hlayout
    unfold Staged.publish at hafter ⊢
    split_ifs at hafter ⊢
    · exact ⟨rfl, hst, hlayout⟩
    · obtain ⟨hanswer, hstores⟩ := hst.apply e.2.region fun hmemory =>
        hu e he ((hlayout.directory? e.2.region).symm.trans hmemory)
      exact ⟨hanswer, hstores, hafter⟩
  obtain ⟨hanswer, hwork, hstores, _⟩ := u.commitAll_related (R := R) ⟨h, .refl store⟩ hpublish
  exact ⟨hanswer, hwork, hstores⟩

end UnitOfWork

namespace Executor

variable {x : Executor} {s t : Shared} {c : Connection} {work : UnitOfWork} {cached : Bool}

/-- Results with one answer and one executor, over shared states that differ in the same way. -/
structure Persists {α : Type} (p q : α × Executor × Shared) : Prop where
  answer : p.1 = q.1
  executor : p.2.1 = q.2.1
  shared : p.2.2.Persists q.2.2

/-! ## Connections -/

theorem persists_direct_queryWithKey (h : s.Persists t) (c : Connection)
    (statement : MappedStatement) (parameter : Value) (bounds : RowBounds)
    (handler : Option Handler) (key : CacheKey) :
    Persists ((direct c).queryWithKey statement parameter bounds handler key s)
      ((direct c).queryWithKey statement parameter bounds handler key t) := by
  unfold queryWithKey
  rw [h.source]
  cases c.select t.source statement parameter bounds with
  | mk result source =>
    cases result with
    | error e => exact ⟨rfl, rfl, h.withSource source⟩
    | ok rows =>
      dsimp only
      rw [h.journal]
      exact ⟨rfl, rfl, h.regions, rfl, rfl⟩

/-- What a connection makes of its source is one thing over both states. -/
theorem Persists.ofConnection {α : Type} (h : s.Persists t)
    (f : DataSource → α × Connection × DataSource) :
    Persists ((f s.source).1, direct (f s.source).2.1, { s with source := (f s.source).2.2 })
      ((f t.source).1, direct (f t.source).2.1, { t with source := (f t.source).2.2 }) := by
  rw [h.source]
  exact ⟨rfl, rfl, h.withSource _⟩

theorem persists_direct_commit (h : s.Persists t) (c : Connection) (required : Bool) :
    Persists ((direct c).commit required s) ((direct c).commit required t) :=
  .ofConnection h fun d => c.commit d required

theorem persists_direct_close (h : s.Persists t) (c : Connection) (forceRollback : Bool) :
    Persists ((direct c).close forceRollback s) ((direct c).close forceRollback t) :=
  .ofConnection h fun d => c.close d forceRollback

/-! ## Selects -/

theorem Persists.passed {p q : Result Rows} (h : Persists p q) (work : UnitOfWork) :
    Persists (passed work p) (Executor.passed work q) :=
  ⟨h.answer, congrArg (caching work) h.executor, h.shared⟩

theorem persists_lookedUp (h : s.Persists t) (c : Connection) (statement : MappedStatement)
    (parameter : Value) (bounds : RowBounds) (key : CacheKey) (region : RegionRef) :
    Persists
      (lookedUp (direct c) statement parameter bounds key region s (work.get s.regions region key))
      (lookedUp (direct c) statement parameter bounds key region t
        (work.get t.regions region key)) := by
  obtain ⟨hfound, hlooked, hstores⟩ := work.get_persists h.regions region key
  generalize work.get s.regions region key = p at hfound hlooked hstores
  generalize work.get t.regions region key = q at hfound hlooked hstores
  obtain ⟨found, looked, store⟩ := p
  obtain ⟨found', looked', store'⟩ := q
  obtain rfl : found = found' := hfound
  obtain rfl : looked = looked' := hlooked
  have hshared := h.withRegions hstores
  cases found with
  | error e => exact ⟨rfl, rfl, hshared⟩
  | ok lookup =>
    cases lookup with
    | hit rows => exact ⟨rfl, rfl, hshared⟩
    | miss =>
      unfold lookedUp
      dsimp only
      have hfetch := persists_direct_queryWithKey hshared c statement parameter bounds none key
      generalize (direct c).queryWithKey statement parameter bounds none key
        { s with regions := store } = p at hfetch
      generalize (direct c).queryWithKey statement parameter bounds none key
        { t with regions := store' } = q at hfetch
      obtain ⟨outcome, delegate, after⟩ := p
      obtain ⟨outcome', delegate', after'⟩ := q
      obtain ⟨hanswer, hexecutor, hafter⟩ := hfetch
      obtain rfl : outcome = outcome' := hanswer
      obtain rfl : delegate = delegate' := hexecutor
      cases outcome with
      | error e => exact ⟨rfl, rfl, hafter⟩
      | ok rows =>
        dsimp only
        cases looked.put region key rows with
        | error e => exact ⟨rfl, rfl, hafter⟩
        | ok staged => exact ⟨rfl, rfl, hafter⟩

theorem persists_queryWithKey (hx : x.Simple cached) (h : s.Persists t)
    (statement : MappedStatement) (parameter : Value) (bounds : RowBounds)
    (handler : Option Handler) (key : CacheKey) :
    Persists (x.queryWithKey statement parameter bounds handler key s)
      (x.queryWithKey statement parameter bounds handler key t) := by
  cases hx with
  | direct c => exact persists_direct_queryWithKey h c statement parameter bounds handler key
  | caching work c =>
    have hpass := persists_direct_queryWithKey h c statement parameter bounds handler key
    cases hcache : statement.cache with
    | none =>
      rw [queryWithKey_of_uncached work _ parameter bounds handler key s hcache,
        queryWithKey_of_uncached work _ parameter bounds handler key t hcache]
      exact hpass.passed work
    | some region =>
      cases hflush : flushIfRequired work statement with
      | error e =>
        unfold queryWithKey
        rw [hcache]
        simp only [hflush]
        exact ⟨rfl, rfl, h⟩
      | ok flushed =>
        by_cases hpassed : (!statement.useCache || handler.isSome) = true
        · rw [queryWithKey_of_passed _ parameter bounds key s hcache hflush hpassed,
            queryWithKey_of_passed _ parameter bounds key t hcache hflush hpassed]
          exact hpass.passed flushed
        · obtain ⟨huse, rfl⟩ : statement.useCache = true ∧ handler = none := by simpa using hpassed
          cases hout : statement.hasOutParams with
          | true =>
            rw [queryWithKey_of_outParams _ parameter bounds key s hcache hflush huse hout,
              queryWithKey_of_outParams _ parameter bounds key t hcache hflush huse hout]
            exact ⟨rfl, rfl, h⟩
          | false =>
            rw [queryWithKey_eq_lookedUp _ parameter bounds key s hcache hflush huse hout,
              queryWithKey_eq_lookedUp _ parameter bounds key t hcache hflush huse hout]
            exact persists_lookedUp h c statement parameter bounds key region

/-! ## All calls -/

theorem Persists.reply {α : Type} {p q : Except Error α × Executor × Shared} (h : Persists p q)
    (wrap : α → ExecutorReply) : Persists (reply wrap p) (Executor.reply wrap q) :=
  ⟨congrArg (fun result => (Outcome.ofExcept result).map wrap) h.answer, h.executor, h.shared⟩

/-- What holds of a delegate's calls holds behind a cache that leaves them alone. -/
theorem Persists.behind {α : Type} {p q : α × Executor × Shared} (h : Persists p q)
    (work : UnitOfWork) :
    Persists (p.1, caching work p.2.1, p.2.2) (q.1, caching work q.2.1, q.2.2) :=
  ⟨h.answer, congrArg (caching work) h.executor, h.shared⟩

theorem persists_queryCursor (hx : x.Simple cached) (h : s.Persists t)
    (statement : MappedStatement) (parameter : Value) (bounds : RowBounds) :
    Persists (x.queryCursor statement parameter bounds s)
      (x.queryCursor statement parameter bounds t) := by
  have hdirect : ∀ c, Persists ((direct c).queryCursor statement parameter bounds s)
      ((direct c).queryCursor statement parameter bounds t) := fun c =>
    .ofConnection h fun d =>
      ((c.select d statement parameter bounds).1, c, (c.select d statement parameter bounds).2)
  cases hx with
  | direct c => exact hdirect c
  | caching work c =>
    unfold queryCursor
    cases flushIfRequired work statement with
    | error e => exact ⟨rfl, rfl, h⟩
    | ok flushed => exact (hdirect c).behind flushed

theorem persists_update (hx : x.Simple cached) (h : s.Persists t)
    (statement : MappedStatement) (parameter : Value) :
    Persists (x.update statement parameter s) (x.update statement parameter t) := by
  have hdirect : ∀ c, Persists ((direct c).update statement parameter s)
      ((direct c).update statement parameter t) := fun c =>
    .ofConnection h fun d => c.update d statement parameter
  cases hx with
  | direct c => exact hdirect c
  | caching work c =>
    unfold update
    cases flushIfRequired work statement with
    | error e => exact ⟨rfl, rfl, h⟩
    | ok flushed => exact (hdirect c).behind flushed

theorem persists_flushStatements (hx : x.Simple cached) (h : s.Persists t) :
    Persists (x.flushStatements s) (x.flushStatements t) := by
  have hdirect : ∀ c, Persists ((direct c).flushStatements s) ((direct c).flushStatements t) :=
    fun c => .ofConnection h fun d => ((c.flush d).1, c, (c.flush d).2)
  cases hx with
  | direct c => exact hdirect c
  | caching work c => exact (hdirect c).behind work

theorem persists_rollback (hx : x.Simple cached) (h : s.Persists t) (required : Bool) :
    Persists (x.rollback required s) (x.rollback required t) := by
  have hdirect : ∀ c, Persists ((direct c).rollback required s) ((direct c).rollback required t) :=
    fun c => .ofConnection h fun d => c.rollback d required
  cases hx with
  | direct c => exact hdirect c
  | caching work c => exact (hdirect c).behind _

theorem persists_commit (hx : x.Simple cached) (h : s.Persists t) (required : Bool)
    (hstorable : (x.connection.commit s.source required).1 = .ok true → x.work.Storable s.regions) :
    Persists (x.commit required s) (x.commit required t) := by
  cases hx with
  | direct c => exact persists_direct_commit h c required
  | caching work c =>
    have hdelegate := persists_direct_commit h c required
    by_cases hmade : ((direct c).commit required s).1 = .ok true
    · have hstaged : work.Storable ((direct c).commit required s).2.2.regions := hstorable hmade
      obtain ⟨hpublished, hwork, hregions⟩ :=
        UnitOfWork.commitAll_persists hstaged hdelegate.shared.regions
      rw [commit_of_made work hmade, commit_of_made work (hdelegate.answer ▸ hmade)]
      refine ⟨congrArg (Except.map fun () => true) hpublished, ?_,
        hdelegate.shared.withRegions hregions⟩
      dsimp only
      rw [hwork, hdelegate.executor]
    · rw [commit_of_not_made work hmade, commit_of_not_made work (hdelegate.answer ▸ hmade)]
      exact hdelegate.behind work

theorem persists_close (hx : x.Simple cached) (h : s.Persists t) (forceRollback : Bool)
    (hstorable : forceRollback = false → x.work.Storable s.regions) :
    Persists (x.close forceRollback s) (x.close forceRollback t) := by
  cases hx with
  | direct c => exact persists_direct_close h c forceRollback
  | caching work c =>
    cases forceRollback with
    | true =>
      have hdelegate := persists_direct_close h c true
      exact ⟨congrArg (joinClose · (.ok ())) hdelegate.answer,
        congrArg (caching work.rollbackAll) hdelegate.executor, hdelegate.shared⟩
    | false =>
      have hstaged : work.Storable s.regions := hstorable rfl
      obtain ⟨hpublished, hwork, hregions⟩ := UnitOfWork.commitAll_persists hstaged h.regions
      obtain ⟨hclosed, hexecutor, hshared⟩ :=
        persists_direct_close (h.withRegions hregions) c false
      exact ⟨congrArg₂ joinClose hclosed hpublished, congrArg₂ caching hwork hexecutor, hshared⟩

theorem persists_perform (hx : x.Simple cached) (h : s.Persists t) (call : ExecutorCall)
    (hstorable : call.Publishes x s.source → x.work.Storable s.regions) :
    Persists (x.perform s call) (x.perform t call) := by
  cases call with
  | query statement parameter bounds handler =>
    unfold perform query
    dsimp only
    cases x.keyFor statement parameter bounds with
    | error e => exact ⟨rfl, rfl, h⟩
    | ok key =>
      obtain ⟨hanswer, hexecutor, hshared⟩ :=
        persists_queryWithKey hx h statement parameter bounds handler key
      exact ⟨congrArg (Except.map ExecutorReply.rows) hanswer, hexecutor, hshared⟩
  | queryCursor statement parameter bounds =>
    exact (persists_queryCursor hx h statement parameter bounds).reply .rows
  | update statement parameter => exact (persists_update hx h statement parameter).reply .count
  | flushStatements => exact (persists_flushStatements hx h).reply _
  | commit required => exact (persists_commit hx h required hstorable).reply .committed
  | rollback required => exact (persists_rollback hx h required).reply _
  | close forceRollback => exact (persists_close hx h forceRollback hstorable).reply _
  | clearLocalCache => exact ⟨rfl, rfl, h⟩

end Executor

end DataMapper
