import DataMapper.Proofs.Executor.Alike
/-!
# Other staged work

A caching executor with other staged work over the same regions may answer its selects otherwise.
Nothing else depends on the work before it is published: not the answers to its other calls, and
not what the call leaves to be seen by other executors.
-/

namespace DataMapper

/-! ## Units of work that know the same regions -/

namespace UnitOfWork

variable {u u' u'' : UnitOfWork} {r : RegionRef}

/-- The same regions under the same ids. What is staged for them may differ. -/
def SameRegions (u u' : UnitOfWork) : Prop :=
  ∀ id, (u.views.get? id).map Staged.region = (u'.views.get? id).map Staged.region

theorem SameRegions.symm (h : u.SameRegions u') : u'.SameRegions u :=
  fun id => (h id).symm

theorem SameRegions.trans (h : u.SameRegions u') (h' : u'.SameRegions u'') : u.SameRegions u'' :=
  fun id => (h id).trans (h' id)

theorem SameRegions.setView (h : u.SameRegions u') (r : RegionRef) {v v' : Staged}
    (hv : v.region = v'.region) : (u.setView r v).SameRegions (u'.setView r v') := by
  intro id
  unfold UnitOfWork.setView
  rw [NameMap.get?_insert, NameMap.get?_insert]
  split_ifs
  · exact congrArg some hv
  · exact h id

/-- A view that takes the place of one of the same region. -/
theorem sameRegions_setView_setView (u : UnitOfWork) (r : RegionRef) {v w : Staged}
    (h : w.region = v.region) : ((u.setView r v).setView r w).SameRegions (u.setView r v) := by
  intro id
  unfold UnitOfWork.setView
  rw [NameMap.get?_insert]
  split_ifs with hid
  · rw [NameMap.get?_insert, if_pos hid]
    exact congrArg some h
  · rfl

theorem sameRegions_rollbackAll (u : UnitOfWork) : u.rollbackAll.SameRegions u := by
  intro id
  unfold UnitOfWork.rollbackAll
  rw [NameMap.get?_map]
  cases u.views.get? id <;> rfl

theorem SameRegions.view? (h : u.SameRegions u') (r : RegionRef) :
    (u.view? r).map Staged.region = (u'.view? r).map Staged.region := by
  have hid := h r.id
  unfold UnitOfWork.view? Staged.isBackedBy
  cases hv : u.views.get? r.id with
  | none =>
    cases hv' : u'.views.get? r.id with
    | none => rfl
    | some v' => simp [hv, hv'] at hid
  | some v =>
    cases hv' : u'.views.get? r.id with
    | none => simp [hv, hv'] at hid
    | some v' =>
      have hregion : v.region = v'.region := by simpa [hv, hv'] using hid
      dsimp only
      rw [hregion]
      split_ifs
      · exact congrArg Except.ok hregion
      · rfl

/-- The unit of work once it has a view of a region, if the id is free for it. -/
def touch (u : UnitOfWork) (r : RegionRef) : UnitOfWork :=
  match u.view? r with
  | .error _ => u
  | .ok v => u.setView r v

theorem SameRegions.touch (h : u.SameRegions u') (r : RegionRef) :
    (u.touch r).SameRegions (u'.touch r) := by
  have hview := h.view? r
  unfold UnitOfWork.touch
  cases hv : u.view? r with
  | error e =>
    cases hv' : u'.view? r with
    | error e' => exact h
    | ok v' => simp [hv, hv', Except.map] at hview
  | ok v =>
    cases hv' : u'.view? r with
    | error e' => simp [hv, hv', Except.map] at hview
    | ok v' => exact h.setView r (by simpa [hv, hv', Except.map] using hview)

/-- Both units of work refuse a region, or both clear it. -/
theorem SameRegions.clear (h : u.SameRegions u') (r : RegionRef) :
    (∃ e, u.clear r = .error e ∧ u'.clear r = .error e) ∨
      ∃ w w', u.clear r = .ok w ∧ u'.clear r = .ok w' ∧ w.SameRegions w' := by
  have hview := h.view? r
  unfold UnitOfWork.clear
  cases hv : u.view? r with
  | error e =>
    cases hv' : u'.view? r with
    | error e' =>
      have he : e = e' := by simpa [hv, hv', Except.map] using hview
      exact Or.inl ⟨e, rfl, by rw [he]; rfl⟩
    | ok v' => simp [hv, hv', Except.map] at hview
  | ok v =>
    cases hv' : u'.view? r with
    | error e' => simp [hv, hv', Except.map] at hview
    | ok v' =>
      have hregion : v.region = v'.region := by simpa [hv, hv', Except.map] using hview
      exact Or.inr ⟨_, _, rfl, rfl, h.setView r hregion⟩

theorem get_snd_fst (u : UnitOfWork) (store : RegionStore) (r : RegionRef) (key : CacheKey) :
    (u.get store r key).2.1 = u.touch r := by
  unfold UnitOfWork.get touch
  cases u.view? r <;> rfl

theorem sameRegions_put_touch {key : CacheKey} {rows : Rows}
    (h : (u.touch r).put r key rows = .ok u') : u'.SameRegions (u.touch r) := by
  unfold touch at h ⊢
  cases hv : u.view? r with
  | error e =>
    rw [hv] at h
    simp [UnitOfWork.put, hv, Except.map] at h
  | ok v =>
    rw [hv] at h
    dsimp only at h ⊢
    unfold UnitOfWork.put UnitOfWork.view? at h
    rw [UnitOfWork.setView, NameMap.get?_insert_self] at h
    dsimp only at h
    split_ifs at h
    · cases h
      exact u.sameRegions_setView_setView r rfl
    · cases h

end UnitOfWork

namespace Executor

variable {x y : Executor} {s t : Shared} {c c' : Connection} {work work' : UnitOfWork}

/-- Executors that are alike, but for what one unit of work has staged. -/
inductive Restaged : Executor → Executor → Prop where
  | alike {x y : Executor} (h : x.Alike y) : Restaged x y
  | caching {work work' : UnitOfWork} {c c' : Connection} (hwork : work.SameRegions work')
      (hc : c.SameState c') : Restaged (caching work (direct c)) (caching work' (direct c'))

theorem Restaged.connection (h : x.Restaged y) : x.connection.SameState y.connection := by
  cases h with
  | alike h => exact h.connection
  | caching _ hc => exact hc

theorem flushIfRequired_congr (h : work.SameRegions work') (statement : MappedStatement) :
    (∃ e, flushIfRequired work statement = .error e ∧
      flushIfRequired work' statement = .error e) ∨
    ∃ flushed flushed', flushIfRequired work statement = .ok flushed ∧
      flushIfRequired work' statement = .ok flushed' ∧ flushed.SameRegions flushed' := by
  unfold flushIfRequired
  cases statement.cache with
  | none => exact Or.inr ⟨work, work', rfl, rfl, h⟩
  | some region =>
    dsimp only
    split_ifs
    · exact h.clear region
    · exact Or.inr ⟨work, work', rfl, rfl, h⟩

/-- Rows that no handler takes are fetched without a trace that others could see. -/
theorem direct_queryWithKey_none (c : Connection) (statement : MappedStatement)
    (parameter : Value) (bounds : RowBounds) (key : CacheKey) (s : Shared) :
    ∃ outcome c₁ s₁,
      (direct c).queryWithKey statement parameter bounds none key s = (outcome, direct c₁, s₁) ∧
      c₁.SameState c ∧ s₁.Alike s ∧ outcome.broke = false := by
  have hsource := c.sameAnswers_select s.source statement parameter bounds
  unfold queryWithKey
  generalize c.select s.source statement parameter bounds = p at hsource
  obtain ⟨result, d⟩ := p
  have hshared : { s with source := d }.Alike s :=
    (Shared.Alike.refl s).withSource hsource
  cases result with
  | error e => exact ⟨_, c, _, rfl, .refl c, hshared, rfl⟩
  | ok rows => exact ⟨_, _, _, rfl, c.sameState_remember key, hshared, rfl⟩

/-- A select that looks up its region leaves no trace that others could see. -/
theorem cached_queryWithKey (c : Connection) {statement : MappedStatement} {region : RegionRef}
    (parameter : Value) (bounds : RowBounds) (key : CacheKey) (s : Shared)
    (hcache : statement.cache = some region) {flushed : UnitOfWork}
    (hflush : flushIfRequired work statement = .ok flushed) (huse : statement.useCache = true)
    (hout : statement.hasOutParams = false) :
    ∃ outcome looked c₁ s₁,
      (caching work (direct c)).queryWithKey statement parameter bounds none key s =
        (outcome, caching looked (direct c₁), s₁) ∧
      looked.SameRegions (flushed.touch region) ∧ c₁.SameState c ∧ s₁.Alike s ∧
      outcome.broke = false := by
  have hlooked := flushed.get_snd_fst s.regions region key
  have hentries := flushed.sameEntries_get s.regions region key
  rw [queryWithKey_eq_lookedUp _ parameter bounds key s hcache hflush huse hout]
  generalize flushed.get s.regions region key = p at hlooked hentries
  obtain ⟨found, looked, store⟩ := p
  obtain rfl : looked = flushed.touch region := hlooked
  have hstore : { s with regions := store }.Alike s := (Shared.Alike.refl s).withRegions hentries
  cases found with
  | error e => exact ⟨_, _, c, _, rfl, fun _ => rfl, .refl c, hstore, rfl⟩
  | ok lookup =>
    cases lookup with
    | hit rows => exact ⟨_, _, c, _, rfl, fun _ => rfl, .refl c, hstore, rfl⟩
    | miss =>
      obtain ⟨outcome, c₁, s₁, hfetch, hc, hs, hbroke⟩ :=
        direct_queryWithKey_none c statement parameter bounds key { s with regions := store }
      unfold lookedUp
      dsimp only
      rw [hfetch]
      cases outcome with
      | error fault => exact ⟨_, _, c₁, _, rfl, fun _ => rfl, hc, hs.trans hstore, hbroke⟩
      | ok rows =>
        cases hput : (flushed.touch region).put region key rows with
        | error e =>
          dsimp only
          rw [hput]
          exact ⟨_, _, c₁, _, rfl, fun _ => rfl, hc, hs.trans hstore, rfl⟩
        | ok staged =>
          dsimp only
          rw [hput]
          exact ⟨_, staged, c₁, _, rfl, UnitOfWork.sameRegions_put_touch hput, hc,
            hs.trans hstore, rfl⟩

/-- A select that passes the cache by leaves the same traces whatever is staged. -/
theorem passed_queryWithKey (hwork : work.SameRegions work') (hc : c.SameState c')
    (hs : s.Alike t) (statement : MappedStatement) (parameter : Value) (bounds : RowBounds)
    (handler : Option Handler) (key : CacheKey) :
    ∃ outcome x y s₁ t₁,
      passed work ((direct c).queryWithKey statement parameter bounds handler key s) =
        (outcome, x, s₁) ∧
      passed work' ((direct c').queryWithKey statement parameter bounds handler key t) =
        (outcome, y, t₁) ∧
      x.Restaged y ∧ s₁.Alike t₁ := by
  have hleft := regions_direct_queryWithKey c statement parameter bounds handler key s
  have hright := regions_direct_queryWithKey c' statement parameter bounds handler key t
  obtain ⟨outcome, c₁, c₁', s₁, t₁, hx, hy, hc₁, hc₁', hanswers⟩ :=
    direct_queryWithKey_congr hc hs.toSameAnswers statement parameter bounds handler key
  rw [hx] at hleft ⊢
  rw [hy] at hright ⊢
  have hregions : s₁.regions.SameEntries t₁.regions := by
    rw [hleft, hright]
    exact hs.regions
  exact ⟨outcome, _, _, s₁, t₁, rfl, rfl,
    .caching hwork ((hc₁.trans hc).trans hc₁'.symm), hanswers, hregions⟩

/-- Whatever is staged, a select breaks the same handlers and leaves the same traces. -/
theorem restaged_queryWithKey (hwork : work.SameRegions work') (hc : c.SameState c')
    (hs : s.Alike t) (statement : MappedStatement) (parameter : Value) (bounds : RowBounds)
    (handler : Option Handler) (key : CacheKey) :
    ∃ outcome outcome' x y s₁ t₁,
      (caching work (direct c)).queryWithKey statement parameter bounds handler key s =
        (outcome, x, s₁) ∧
      (caching work' (direct c')).queryWithKey statement parameter bounds handler key t =
        (outcome', y, t₁) ∧
      x.Restaged y ∧ s₁.Alike t₁ ∧ outcome.broke = outcome'.broke := by
  cases hcache : statement.cache with
  | none =>
    obtain ⟨outcome, x, y, s₁, t₁, hx, hy, hxy, hst⟩ :=
      passed_queryWithKey hwork hc hs statement parameter bounds handler key
    refine ⟨outcome, outcome, x, y, s₁, t₁, ?_, ?_, hxy, hst, rfl⟩
    · rw [queryWithKey_of_uncached work _ parameter bounds handler key s hcache]
      exact hx
    · rw [queryWithKey_of_uncached work' _ parameter bounds handler key t hcache]
      exact hy
  | some region =>
    rcases flushIfRequired_congr hwork statement with
      ⟨e, hflush, hflush'⟩ | ⟨flushed, flushed', hflush, hflush', hflushed⟩
    · refine ⟨.error (.error e), .error (.error e), _, _, s, t, ?_, ?_, .caching hwork hc, hs, rfl⟩
      · rw [queryWithKey, hcache]
        simp only [hflush]
      · rw [queryWithKey, hcache]
        simp only [hflush']
    · by_cases hpass : (!statement.useCache || handler.isSome) = true
      · obtain ⟨outcome, x, y, s₁, t₁, hx, hy, hxy, hst⟩ :=
          passed_queryWithKey hflushed hc hs statement parameter bounds handler key
        refine ⟨outcome, outcome, x, y, s₁, t₁, ?_, ?_, hxy, hst, rfl⟩
        · rw [queryWithKey_of_passed _ parameter bounds key s hcache hflush hpass]
          exact hx
        · rw [queryWithKey_of_passed _ parameter bounds key t hcache hflush' hpass]
          exact hy
      · obtain ⟨huse, rfl⟩ : statement.useCache = true ∧ handler = none := by simpa using hpass
        cases hout : statement.hasOutParams with
        | true =>
          exact ⟨_, _, _, _, s, t,
            queryWithKey_of_outParams _ parameter bounds key s hcache hflush huse hout,
            queryWithKey_of_outParams _ parameter bounds key t hcache hflush' huse hout,
            .caching hflushed hc, hs, rfl⟩
        | false =>
          obtain ⟨outcome, looked, c₁, s₁, hx, hlooked, hc₁, hs₁, hbroke⟩ :=
            cached_queryWithKey c parameter bounds key s hcache hflush huse hout
          obtain ⟨outcome', looked', c₁', t₁, hy, hlooked', hc₁', ht₁, hbroke'⟩ :=
            cached_queryWithKey c' parameter bounds key t hcache hflush' huse hout
          refine ⟨outcome, outcome', _, _, s₁, t₁, hx, hy, ?_, ?_, hbroke.trans hbroke'.symm⟩
          · exact .caching ((hlooked.trans (hflushed.touch region)).trans hlooked'.symm)
              ((hc₁.trans hc).trans hc₁'.symm)
          · exact (hs₁.trans hs).trans ht₁.symm

theorem restaged_query (hwork : work.SameRegions work') (hc : c.SameState c') (hs : s.Alike t)
    (statement : MappedStatement) (parameter : Value) (bounds : RowBounds)
    (handler : Option Handler) :
    ∃ outcome outcome' x y s₁ t₁,
      (caching work (direct c)).query statement parameter bounds handler s =
        (outcome, x, s₁) ∧
      (caching work' (direct c')).query statement parameter bounds handler t =
        (outcome', y, t₁) ∧
      x.Restaged y ∧ s₁.Alike t₁ ∧ outcome.broke = outcome'.broke := by
  have hkey : (caching work' (direct c')).keyFor statement parameter bounds =
      (caching work (direct c)).keyFor statement parameter bounds := by
    unfold keyFor environment connection connection
    rw [hc.environment]
  unfold query
  rw [hkey]
  cases (caching work (direct c)).keyFor statement parameter bounds with
  | error e => exact ⟨_, _, _, _, s, t, rfl, rfl, .caching hwork hc, hs, rfl⟩
  | ok key => exact restaged_queryWithKey hwork hc hs statement parameter bounds handler key

/-! ## All calls -/

/-- What calls of restaged executors have in common. -/
structure Veiled (call : ExecutorCall) (p q : Result ExecutorReply) : Prop where
  executors : p.2.1.Restaged q.2.1
  shared : p.2.2.Alike q.2.2
  broke : p.1.broke = q.1.broke
  answer : (∃ statement parameter bounds handler,
    call = .query statement parameter bounds handler) ∨ p.1 = q.1

theorem Agree.veiled {call : ExecutorCall} {p q : Result ExecutorReply} (h : Agree p q) :
    Veiled call p q :=
  ⟨.alike h.executors, h.shared, by rw [h.answer], Or.inr h.answer⟩

theorem broke_map {α β : Type} (outcome : Outcome α) (f : α → β) :
    Outcome.broke (outcome.map f) = outcome.broke := by
  cases outcome with
  | ok a => rfl
  | error fault => cases fault <;> rfl

theorem veiled_query (hwork : work.SameRegions work') (hc : c.SameState c') (hs : s.Alike t)
    (statement : MappedStatement) (parameter : Value) (bounds : RowBounds)
    (handler : Option Handler) :
    Veiled (.query statement parameter bounds handler)
      ((caching work (direct c)).perform s (.query statement parameter bounds handler))
      ((caching work' (direct c')).perform t (.query statement parameter bounds handler)) := by
  obtain ⟨outcome, outcome', x, y, s₁, t₁, hx, hy, hxy, hst, hbroke⟩ :=
    restaged_query hwork hc hs statement parameter bounds handler
  unfold perform
  dsimp only
  rw [hx, hy]
  refine ⟨hxy, hst, ?_, Or.inl ⟨_, _, _, _, rfl⟩⟩
  rw [broke_map, broke_map]
  exact hbroke

/-- Calls that may flush a region, and otherwise leave the cache alone. -/
theorem veiled_delegated {α : Type} {call : ExecutorCall} (hwork : work.SameRegions work')
    (wrap : α → ExecutorReply) {p q : Except Error α × Executor × Shared} (h : Agree p q)
    (hp : ∃ c, p.2.1 = direct c) (hq : ∃ c, q.2.1 = direct c) :
    Veiled call (reply wrap (p.1, caching work p.2.1, p.2.2))
      (reply wrap (q.1, caching work' q.2.1, q.2.2)) := by
  obtain ⟨c, hc⟩ := hp
  obtain ⟨c', hc'⟩ := hq
  have hanswer := (h.reply wrap).answer
  have hstate : c.SameState c' := by
    have hx := h.executors.connection
    rw [hc, hc'] at hx
    exact hx
  refine ⟨?_, h.shared, congrArg Outcome.broke hanswer, Or.inr hanswer⟩
  unfold reply
  dsimp only
  rw [hc, hc']
  exact .caching hwork hstate

/-- Before its work is published, no call of an executor tells the others what is staged. -/
theorem Restaged.perform (h : x.Restaged y) (hs : s.Alike t) {call : ExecutorCall}
    (hcall : ¬ call.Publishes x s.source) : Veiled call (x.perform s call) (y.perform t call) := by
  cases h with
  | alike h => exact (h.perform hs call).veiled
  | caching hwork hc =>
    rename_i work work' c c'
    have hdirect : (direct c).Alike (direct c') := .direct hc
    cases call with
    | query statement parameter bounds handler =>
      exact veiled_query hwork hc hs statement parameter bounds handler
    | queryCursor statement parameter bounds =>
      unfold Executor.perform
      dsimp only
      unfold queryCursor
      rcases flushIfRequired_congr hwork statement with
        ⟨e, hflush, hflush'⟩ | ⟨flushed, flushed', hflush, hflush', hflushed⟩
      · rw [hflush, hflush']
        exact ⟨.caching hwork hc, hs, rfl, Or.inr rfl⟩
      · rw [hflush, hflush']
        exact veiled_delegated hflushed .rows (hdirect.queryCursor hs statement parameter bounds)
          ⟨_, rfl⟩ ⟨_, rfl⟩
    | update statement parameter =>
      unfold Executor.perform
      dsimp only
      unfold Executor.update
      rcases flushIfRequired_congr hwork statement with
        ⟨e, hflush, hflush'⟩ | ⟨flushed, flushed', hflush, hflush', hflushed⟩
      · rw [hflush, hflush']
        exact ⟨.caching hwork hc, hs, rfl, Or.inr rfl⟩
      · rw [hflush, hflush']
        exact veiled_delegated hflushed .count (hdirect.update hs statement parameter)
          ⟨_, rfl⟩ ⟨_, rfl⟩
    | flushStatements =>
      exact veiled_delegated hwork _ (hdirect.flushStatements hs) ⟨_, rfl⟩ ⟨_, rfl⟩
    | commit required =>
      have hagree := hdirect.commit hs required
      have hunmade : ((direct c).commit required s).1 ≠ .ok true := hcall
      unfold Executor.perform
      dsimp only
      rw [commit_of_not_made work hunmade, commit_of_not_made work' (hagree.answer ▸ hunmade)]
      exact veiled_delegated hwork .committed hagree ⟨_, rfl⟩ ⟨_, rfl⟩
    | rollback required =>
      have hkept : (if required then work.rollbackAll else work).SameRegions
          (if required then work'.rollbackAll else work') := by
        split_ifs
        · exact (work.sameRegions_rollbackAll.trans hwork).trans
            work'.sameRegions_rollbackAll.symm
        · exact hwork
      exact veiled_delegated hkept _ (hdirect.rollback hs required) ⟨_, rfl⟩ ⟨_, rfl⟩
    | close forceRollback =>
      have hforced : forceRollback = true := by simpa [ExecutorCall.Publishes] using hcall
      have hkept : work.rollbackAll.SameRegions work'.rollbackAll :=
        (work.sameRegions_rollbackAll.trans hwork).trans work'.sameRegions_rollbackAll.symm
      subst hforced
      unfold Executor.perform
      dsimp only
      rw [close_caching _ rfl, close_caching _ rfl]
      exact veiled_delegated hkept _ (hdirect.close hs true) ⟨_, rfl⟩ ⟨_, rfl⟩
    | clearLocalCache => exact ⟨.caching hwork ⟨hc.environment, hc.closed⟩, hs, rfl, Or.inr rfl⟩

end Executor

end DataMapper
