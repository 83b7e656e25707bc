import DataMapper.Proofs.Executor.Requests
import DataMapper.Proofs.Staging.Batches
import DataMapper.Proofs.Staging.Views
/-!
# Custody of staged work

A property of units of work, and one of stores, that outlast whatever executors do with them: each
edit of a unit of work keeps the first one, and publishing a unit of work that has the first keeps
the second. Every request then keeps both, behind any number of caches.
-/

namespace DataMapper

/-- The fetch has brought the rows, under the key, for the cache of the region. -/
structure Fetch.Supplies (f : Fetch) (region : RegionRef) (key : CacheKey) (rows : Rows) :
    Prop where
  cache : f.statement.cache = some region
  useCache : f.statement.useCache = true
  inputOnly : f.statement.hasOutParams = false
  handler : f.handler = none
  key : f.key = key
  outcome : f.outcome = .ok rows

/-- Properties that edits on some regions and publications keep, if only some of the regions are
cleared and only admitted rows are staged. -/
structure Custody (P : UnitOfWork → Prop) (J : RegionStore → Prop) (on clears : RegionRef → Prop)
    (admits : RegionRef → CacheKey → Rows → Prop) : Prop where
  clear : ∀ {u u' : UnitOfWork} {r : RegionRef}, P u → on r → clears r → u.clear r = .ok u' → P u'
  get : ∀ {u : UnitOfWork} {r : RegionRef} (store : RegionStore) (key : CacheKey), P u → on r →
    P (u.get store r key).2.1
  put : ∀ {u u' : UnitOfWork} {r : RegionRef} {key : CacheKey} {rows : Rows}, P u → on r →
    admits r key rows → u.put r key rows = .ok u' → P u'
  rollbackAll : ∀ {u : UnitOfWork}, P u → P u.rollbackAll
  publishAll : ∀ {u : UnitOfWork} {store : RegionStore}, P u → J store →
    J (UnitOfWork.publishAll u.views.entries store).2
  sameEntries : ∀ {store store' : RegionStore}, store'.SameEntries store → J store → J store'

/-! ## Properties of views -/

/-- Every view has the property. -/
def UnitOfWork.EachView (R : Staged → Prop) (u : UnitOfWork) : Prop :=
  ∀ id v, u.views.get? id = some v → R v

/-- A property of views that their own edits keep. -/
structure Staged.Lasts (R : Staged → Prop) (clears : RegionRef → Prop)
    (admits : RegionRef → CacheKey → Rows → Prop) : Prop where
  fresh : ∀ {r : RegionRef}, R { region := r }
  clear : ∀ {v : Staged} {r : RegionRef}, R v → v.region.slot = r.slot → clears r → R v.clear
  put : ∀ {v : Staged} {r : RegionRef} {key : CacheKey} {rows : Rows}, R v →
    v.region.slot = r.slot → admits r key rows → R (v.put key rows)
  reset : ∀ {v : Staged}, R v → R v.reset

section EachView

variable {R : Staged → Prop} {clears : RegionRef → Prop}
  {admits : RegionRef → CacheKey → Rows → Prop}

namespace UnitOfWork.EachView

variable {u : UnitOfWork} {r : RegionRef} {v : Staged}

theorem empty (R : Staged → Prop) : UnitOfWork.empty.EachView R :=
  fun _ _ hv => by simp [UnitOfWork.empty] at hv

theorem of_view? (h : u.EachView R) (hfresh : R { region := r }) (hview : u.view? r = .ok v) :
    R v := by
  unfold view? at hview
  split at hview
  · exact Except.ok.inj hview ▸ hfresh
  · rename_i hv
    split_ifs at hview
    exact Except.ok.inj hview ▸ h r.id _ hv

theorem setView (h : u.EachView R) (hv : R v) : (u.setView r v).EachView R :=
  NameMap.forall_insert hv h

theorem rollbackAll (h : u.EachView fun v => R v.reset) : u.rollbackAll.EachView R := by
  intro id v hv
  unfold UnitOfWork.rollbackAll at hv
  rw [NameMap.get?_map] at hv
  obtain ⟨w, hw, rfl⟩ := Option.map_eq_some_iff.1 hv
  exact h id w hw

theorem entries (h : u.EachView R) : ∀ e ∈ u.views.entries, R e.2 :=
  fun e he => h e.1 e.2 ((NameMap.get?_eq_some_iff _).2 he)

end UnitOfWork.EachView

/-- A property of views that lasts is one of units of work, as long as publishing such views keeps
the property of stores. -/
theorem Staged.Lasts.custody {J : RegionStore → Prop} (h : Staged.Lasts R clears admits)
    (on : RegionRef → Prop)
    (hpublish : ∀ (views : List (String × Staged)) (store : RegionStore),
      (∀ e ∈ views, R e.2) → J store → J (UnitOfWork.publishAll views store).2)
    (hsame : ∀ {store store' : RegionStore}, store'.SameEntries store → J store → J store') :
    Custody (UnitOfWork.EachView R) J on clears admits where
  clear := fun hu _ hr hclear => by
    obtain ⟨v, hview, rfl⟩ := UnitOfWork.exists_of_modified hclear
    exact hu.setView (h.clear (hu.of_view? h.fresh hview) (UnitOfWork.slot_of_view? hview) hr)
  get := fun {u r} store key hu _ => by
    unfold UnitOfWork.get
    cases hview : u.view? r with
    | error e => exact hu
    | ok v => exact hu.setView (hu.of_view? h.fresh hview)
  put := fun hu _ hadmits hput => by
    obtain ⟨v, hview, rfl⟩ := UnitOfWork.exists_of_modified hput
    exact hu.setView
      (h.put (hu.of_view? h.fresh hview) (UnitOfWork.slot_of_view? hview) hadmits)
  rollbackAll := fun hu => .rollbackAll fun id v hv => h.reset (hu id v hv)
  publishAll := fun {u store} hu hstore => hpublish u.views.entries store hu.entries hstore
  sameEntries := hsame

end EachView

/-! ## Requests in custody -/

/-- The statement of a request, if it has one. -/
def ExecutorRequest.statement? : ExecutorRequest → Option MappedStatement
  | .keyed statement .. | .call (.query statement ..) | .call (.queryCursor statement ..)
  | .call (.update statement _) => some statement
  | .call _ => none

/-- The region of the statement, if it has one, is one of the former, and one of the latter if the
statement flushes it. -/
def MappedStatement.On (on clears : RegionRef → Prop) (statement : MappedStatement) : Prop :=
  ∀ r, statement.cache = some r → on r ∧ (statement.flushCacheRequired = true → clears r)

def ExecutorRequest.On (on clears : RegionRef → Prop) (request : ExecutorRequest) : Prop :=
  ∀ statement, request.statement? = some statement → statement.On on clears

namespace Executor

/-- The unit of work of every cache has the property. -/
def Every (P : UnitOfWork → Prop) : Executor → Prop
  | direct _ => True
  | caching work delegate => P work ∧ delegate.Every P

theorem Every.imp {P P' : UnitOfWork → Prop} {x : Executor} (h : x.Every P)
    (himp : ∀ u, P u → P' u) : x.Every P' := by
  induction x with
  | direct c => trivial
  | caching work delegate ih => exact ⟨himp work h.1, ih h.2⟩

end Executor

namespace Custody

variable {P : UnitOfWork → Prop} {J : RegionStore → Prop} {on clears : RegionRef → Prop}
  {admits : RegionRef → CacheKey → Rows → Prop} {x : Executor} {s : Shared}
  {statement : MappedStatement}

theorem flush (h : Custody P J on clears admits) (hon : statement.On on clears)
    {work flushed : UnitOfWork} (hwork : P work)
    (hflush : Executor.flushIfRequired work statement = .ok flushed) : P flushed := by
  unfold Executor.flushIfRequired at hflush
  cases hcache : statement.cache with
  | none =>
    rw [hcache] at hflush
    exact Except.ok.inj hflush ▸ hwork
  | some region =>
    rw [hcache] at hflush
    dsimp only at hflush
    split_ifs at hflush
    · rename_i hflushes
      obtain ⟨hregion, hclears⟩ := hon region hcache
      exact h.clear hwork hregion (hclears hflushes) hflush
    · exact Except.ok.inj hflush ▸ hwork

theorem lookUp (h : Custody P J on clears admits) (hon : statement.On on clears)
    {work flushed looked : UnitOfWork} {region : RegionRef} {key : CacheKey}
    {store store' : RegionStore} {found : Except Error Lookup} (hwork : P work)
    (hlooks : work.LooksUp statement region flushed)
    (hget : flushed.get store region key = (found, looked, store')) : P looked := by
  have hlooked := h.get store key (h.flush hon hwork hlooks.flush) (hon region hlooks.cache).1
  rw [hget] at hlooked
  exact hlooked

/-- A select stages only what it has fetched. -/
theorem queryWithKey (h : Custody P J on clears admits) (hx : x.Every P)
    (hon : statement.On on clears) (parameter : Value) (bounds : RowBounds)
    (handler : Option Handler) (key : CacheKey) (s : Shared)
    (hnoted : ∀ f ∈ (x.queryNoting statement parameter bounds handler key s).1,
      ∀ region key rows, f.Supplies region key rows → admits region key rows) :
    (x.queryWithKey statement parameter bounds handler key s).2.1.Every P := by
  induction x generalizing handler s with
  | direct c =>
    unfold Executor.queryWithKey
    split <;> trivial
  | caching work delegate ih =>
    obtain ⟨hwork, hdelegate⟩ := hx
    have hselects :=
      Executor.selects_queryWithKey work delegate statement parameter bounds handler key s
    generalize (Executor.caching work delegate).queryWithKey statement parameter bounds handler key
      s = result at hselects
    -- what was fetched for missing rows is among the notes, beside the notes of the delegate
    have hfetched : handler = none → ∀ {region flushed looked regions},
        work.LooksUp statement region flushed →
        flushed.get s.regions region key = (.ok .miss, looked, regions) →
          (delegate.queryWithKey statement parameter bounds none key
              { s with regions }).2.1.Every P ∧
            ∀ rows, (delegate.queryWithKey statement parameter bounds none key
              { s with regions }).1 = .ok rows → admits region key rows := by
      rintro rfl region flushed looked regions hlooks hget
      rw [Executor.queryNoting_of_missed hlooks hget, Executor.snd_queryNoting] at hnoted
      refine ⟨ih hdelegate none { s with regions } fun f hf =>
        hnoted f (List.mem_append_left _ hf), fun rows hrows => ?_⟩
      exact hnoted _ (List.mem_append_right _ List.mem_cons_self) region key rows
        ⟨hlooks.cache, hlooks.useCache, hlooks.inputOnly, rfl, rfl, hrows⟩
    cases hselects with
    | passed hflush hpass =>
      rw [Executor.queryNoting_of_passed hflush hpass] at hnoted
      exact ⟨h.flush hon hwork hflush, ih hdelegate handler s fun f hf =>
        hnoted f (List.mem_append_left _ hf)⟩
    | unflushed => exact ⟨hwork, hdelegate⟩
    | outParams _ hflush => exact ⟨h.flush hon hwork hflush, hdelegate⟩
    | unanswered hlooks hget => exact ⟨h.lookUp hon hwork hlooks hget, hdelegate⟩
    | hit hlooks hget => exact ⟨h.lookUp hon hwork hlooks hget, hdelegate⟩
    | unfetched hlooks hget hfetch =>
      have hafter := (hfetched rfl hlooks hget).1
      rw [hfetch] at hafter
      exact ⟨h.lookUp hon hwork hlooks hget, hafter⟩
    | unstaged hlooks hget hfetch =>
      have hafter := (hfetched rfl hlooks hget).1
      rw [hfetch] at hafter
      exact ⟨h.lookUp hon hwork hlooks hget, hafter⟩
    | staged hlooks hget hfetch hput =>
      obtain ⟨hafter, hadmits⟩ := hfetched rfl hlooks hget
      rw [hfetch] at hafter hadmits
      refine ⟨h.put (h.lookUp hon hwork hlooks hget) (hon _ hlooks.cache).1 ?_ hput, hafter⟩
      exact hadmits _ rfl

theorem queryCursor (h : Custody P J on clears admits) (hx : x.Every P)
    (hon : statement.On on clears) (parameter : Value) (bounds : RowBounds)
    (s : Shared) : (x.queryCursor statement parameter bounds s).2.1.Every P := by
  induction x with
  | direct c => trivial
  | caching work delegate ih =>
    unfold Executor.queryCursor
    cases hflush : Executor.flushIfRequired work statement with
    | error e => exact hx
    | ok flushed => exact ⟨h.flush hon hx.1 hflush, ih hx.2⟩

theorem update (h : Custody P J on clears admits) (hx : x.Every P)
    (hon : statement.On on clears) (parameter : Value) (s : Shared) :
    (x.update statement parameter s).2.1.Every P := by
  induction x with
  | direct c => trivial
  | caching work delegate ih =>
    unfold Executor.update
    cases hflush : Executor.flushIfRequired work statement with
    | error e => exact hx
    | ok flushed => exact ⟨h.flush hon hx.1 hflush, ih hx.2⟩

theorem flushStatements (hx : x.Every P) (s : Shared) :
    (x.flushStatements s).2.1.Every P := by
  induction x with
  | direct c => trivial
  | caching work delegate ih => exact ⟨hx.1, ih hx.2⟩

theorem clearLocalCache (hx : x.Every P) : x.clearLocalCache.Every P := by
  induction x with
  | direct c => trivial
  | caching work delegate ih => exact ⟨hx.1, ih hx.2⟩

theorem rollback (h : Custody P J on clears admits) (hx : x.Every P) (required : Bool)
    (s : Shared) :
    (x.rollback required s).2.1.Every P := by
  induction x with
  | direct c => trivial
  | caching work delegate ih =>
    cases required with
    | false => exact ⟨hx.1, ih hx.2⟩
    | true => exact ⟨h.rollbackAll hx.1, ih hx.2⟩

/-- What is published had the property until then. -/
theorem commitAll (h : Custody P J on clears admits) {u : UnitOfWork} {store : RegionStore}
    (hu : P u) (hstore : J store) : P (u.commitAll store).2.1 ∧ J (u.commitAll store).2.2 := by
  rw [UnitOfWork.commitAll_snd]
  exact ⟨h.rollbackAll hu, h.publishAll hu hstore⟩

theorem commit (h : Custody P J on clears admits) (hx : x.Every P) (required : Bool) (s : Shared)
    (hs : J s.regions) :
    (x.commit required s).2.1.Every P ∧ J (x.commit required s).2.2.regions := by
  induction x with
  | direct c => exact ⟨trivial, hs⟩
  | caching work delegate ih =>
    obtain ⟨hdelegate, hregions⟩ := ih hx.2
    by_cases hmade : (delegate.commit required s).1 = .ok true
    · obtain ⟨hwork, hpublished⟩ := h.commitAll hx.1 hregions
      rw [Executor.commit_of_made work hmade]
      exact ⟨⟨hwork, hdelegate⟩, hpublished⟩
    · rw [Executor.commit_of_not_made work hmade]
      exact ⟨⟨hx.1, hdelegate⟩, hregions⟩

theorem close (h : Custody P J on clears admits) (hx : x.Every P) (forceRollback : Bool)
    (s : Shared) (hs : J s.regions) :
    (x.close forceRollback s).2.1.Every P ∧ J (x.close forceRollback s).2.2.regions := by
  induction x generalizing s with
  | direct c => exact ⟨trivial, hs⟩
  | caching work delegate ih =>
    cases forceRollback with
    | true =>
      obtain ⟨hdelegate, hregions⟩ := ih hx.2 { s with regions := s.regions } hs
      exact ⟨⟨h.rollbackAll hx.1, hdelegate⟩, hregions⟩
    | false =>
      obtain ⟨hwork, hpublished⟩ := h.commitAll hx.1 hs
      obtain ⟨hdelegate, hregions⟩ :=
        ih hx.2 { s with regions := (work.commitAll s.regions).2.2 } hpublished
      exact ⟨⟨hwork, hdelegate⟩, hregions⟩

/-- Every request keeps what is in custody. -/
theorem serve (h : Custody P J on clears admits) (hx : x.Every P) (hs : J s.regions)
    {request : ExecutorRequest} (hon : request.On on clears)
    (hnoted : ∀ f ∈ (x.serve s request).1,
      ∀ region key rows, f.Supplies region key rows → admits region key rows) :
    (x.serve s request).2.2.1.Every P ∧ J (x.serve s request).2.2.2.regions := by
  have hselect : ∀ statement parameter bounds handler key,
      statement.On on clears →
      (∀ f ∈ (x.queryNoting statement parameter bounds handler key s).1,
        ∀ region key rows, f.Supplies region key rows → admits region key rows) →
      let result := (x.queryNoting statement parameter bounds handler key s).2
      result.2.1.Every P ∧ J result.2.2.regions := by
    intro statement parameter bounds handler key hon hnoted result
    have hresult : result = x.queryWithKey statement parameter bounds handler key s :=
      x.snd_queryNoting statement parameter bounds handler key s
    rw [hresult]
    exact ⟨h.queryWithKey hx hon parameter bounds handler key s hnoted,
      h.sameEntries (x.sameEntries_queryWithKey statement parameter bounds handler key s) hs⟩
  cases request with
  | keyed statement parameter bounds handler key =>
    exact hselect statement parameter bounds handler key (hon statement rfl) hnoted
  | call call =>
    cases call with
    | query statement parameter bounds handler =>
      unfold Executor.serve at hnoted ⊢
      dsimp only at hnoted ⊢
      cases hkey : x.keyFor statement parameter bounds with
      | error e => exact ⟨hx, hs⟩
      | ok key =>
        rw [hkey] at hnoted
        exact hselect statement parameter bounds handler key (hon statement rfl) hnoted
    | queryCursor statement parameter bounds =>
      refine ⟨h.queryCursor hx (hon statement rfl) parameter bounds s, ?_⟩
      exact (x.regions_queryCursor statement parameter bounds s).symm ▸ hs
    | update statement parameter =>
      refine ⟨h.update hx (hon statement rfl) parameter s, ?_⟩
      exact (x.regions_update statement parameter s).symm ▸ hs
    | flushStatements =>
      exact ⟨flushStatements hx s, (x.regions_flushStatements s).symm ▸ hs⟩
    | commit required => exact h.commit hx required s hs
    | rollback required =>
      exact ⟨h.rollback hx required s, (x.regions_rollback required s).symm ▸ hs⟩
    | close forceRollback => exact h.close hx forceRollback s hs
    | clearLocalCache => exact ⟨clearLocalCache hx, hs⟩

end Custody

/-! ## Pools in custody -/

def PoolEvent.On (on clears : RegionRef → Prop) : PoolEvent → Prop
  | .request _ asked => asked.On on clears
  | .change _ | .refuse _ _ => True

theorem PoolEvent.on_true (event : PoolEvent) : event.On (fun _ => True) fun _ => True := by
  cases event with
  | request i asked => exact fun _ _ _ _ => ⟨trivial, fun _ => trivial⟩
  | change change => trivial
  | refuse r calls => trivial

/-- Executors and regions that have the properties. -/
structure Pool.InCustody (P : UnitOfWork → Prop) (J : RegionStore → Prop) (p : Pool) : Prop where
  executors : ∀ i, (p.executors i).Every P
  regions : J p.shared.regions

namespace Custody

variable {P : UnitOfWork → Prop} {J : RegionStore → Prop} {on clears : RegionRef → Prop}
  {admits : RegionRef → CacheKey → Rows → Prop} {p : Pool}

theorem happen (h : Custody P J on clears admits)
    (hrefuse : ∀ {store : RegionStore} (r : RegionRef) (calls : List RegionCall),
      J store → J (store.setRefusing r calls))
    (hp : p.InCustody P J) {event : PoolEvent} (hon : event.On on clears)
    (hnoted : ∀ f ∈ (p.happen event).1,
      ∀ region key rows, f.Supplies region key rows → admits region key rows) :
    (p.happen event).2.InCustody P J := by
  cases event with
  | change change => exact ⟨hp.executors, hp.regions⟩
  | refuse r calls => exact ⟨hp.executors, hrefuse r calls hp.regions⟩
  | request i request =>
    obtain ⟨hserved, hregions⟩ := h.serve (hp.executors i) hp.regions hon hnoted
    refine ⟨fun j => ?_, hregions⟩
    by_cases hj : j = i
    · subst hj
      simpa [Pool.happen] using hserved
    · simpa [Pool.happen, Function.update_of_ne hj] using hp.executors j

end Custody

end DataMapper
