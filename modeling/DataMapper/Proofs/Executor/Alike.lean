import DataMapper.Proofs.Executor.Calls
import DataMapper.Proofs.Staging.Batches
/-!
# Executors that answer alike

Two executors with the same staged work, on connections in the same state, answer every call alike
if the regions have the same entries and the data source answers alike; and they stay alike. So
what an executor can tell of the others is in the entries, the answers and the journal.
-/

namespace DataMapper

/-- A data source that answers alike, and one journal. -/
structure Shared.SameAnswers (s t : Shared) : Prop where
  source : s.source.SameAnswers t.source
  journal : s.journal = t.journal

/-- Nothing that any call answers tells these shared states apart. -/
structure Shared.Alike (s t : Shared) : Prop extends Shared.SameAnswers s t where
  regions : s.regions.SameEntries t.regions

namespace Shared

variable {s t u : Shared}

theorem SameAnswers.refl (s : Shared) : s.SameAnswers s :=
  ⟨.refl s.source, rfl⟩

theorem SameAnswers.symm (h : s.SameAnswers t) : t.SameAnswers s :=
  ⟨h.source.symm, h.journal.symm⟩

theorem SameAnswers.trans (h : s.SameAnswers t) (h' : t.SameAnswers u) : s.SameAnswers u :=
  ⟨h.source.trans h'.source, h.journal.trans h'.journal⟩

theorem Alike.refl (s : Shared) : s.Alike s :=
  ⟨.refl s, .refl s.regions⟩

theorem Alike.symm (h : s.Alike t) : t.Alike s :=
  ⟨h.toSameAnswers.symm, h.regions.symm⟩

theorem Alike.trans (h : s.Alike t) (h' : t.Alike u) : s.Alike u :=
  ⟨h.toSameAnswers.trans h'.toSameAnswers, h.regions.trans h'.regions⟩

theorem Alike.withSource (h : s.Alike t) {d d' : DataSource} (hd : d.SameAnswers d') :
    { s with source := d }.Alike { t with source := d' } :=
  ⟨⟨hd, h.journal⟩, h.regions⟩

theorem Alike.withRegions (h : s.Alike t) {store store' : RegionStore}
    (hstore : store.SameEntries store') :
    { s with regions := store }.Alike { t with regions := store' } :=
  ⟨⟨h.source, h.journal⟩, hstore⟩

end Shared

/-! ## Units of work over the same entries -/

namespace UnitOfWork

variable {store store' : RegionStore}

theorem get_congr (u : UnitOfWork) (h : store.SameEntries store') (r : RegionRef)
    (key : CacheKey) :
    (u.get store r key).1 = (u.get store' r key).1 ∧
      (u.get store r key).2.1 = (u.get store' r key).2.1 := by
  unfold get
  cases u.view? r with
  | error e => exact ⟨rfl, rfl⟩
  | ok v =>
    refine ⟨?_, rfl⟩
    change (v.get store key).1 = (v.get store' key).1
    unfold Staged.get
    cases v.staged.get? key with
    | some rows => rfl
    | none =>
      dsimp only
      split_ifs
      · rfl
      · exact h.get_fst v.region key

theorem commitAll_congr (u : UnitOfWork) (h : store.SameEntries store') :
    (u.commitAll store).1 = (u.commitAll store').1 ∧
      (u.commitAll store).2.1 = (u.commitAll store').2.1 ∧
      (u.commitAll store).2.2.SameEntries (u.commitAll store').2.2 := by
  refine u.commitAll_related h fun e _ s t hst => ?_
  unfold Staged.publish
  split_ifs
  · exact ⟨rfl, hst⟩
  · exact ⟨hst.apply_fst e.2.region e.2.batch, hst.apply_snd e.2.region e.2.batch⟩

end UnitOfWork

namespace Executor

variable {x y : Executor} {s t : Shared} {c c' : Connection}

/-- The same staged work over connections in the same state. -/
inductive Alike : Executor → Executor → Prop where
  | direct {c c' : Connection} (h : c.SameState c') : Alike (direct c) (direct c')
  | caching (work : UnitOfWork) {x y : Executor} (h : Alike x y) :
    Alike (caching work x) (caching work y)

theorem Alike.refl (x : Executor) : x.Alike x := by
  induction x with
  | direct c => exact .direct (.refl c)
  | caching work delegate ih => exact .caching work ih

theorem Alike.connection (h : x.Alike y) : x.connection.SameState y.connection := by
  induction h with
  | direct h => exact h
  | caching work _ ih => exact ih

/-- Calls with one answer, after which the executors and the shared states are alike. -/
structure Agree {α : Type} (p q : α × Executor × Shared) : Prop where
  answer : p.1 = q.1
  executors : p.2.1.Alike q.2.1
  shared : p.2.2.Alike q.2.2

/-! ## Each call -/

/-- The key is for the connection to remember, and enters no answer. -/
theorem direct_queryWithKey_congr (hc : c.SameState c') (hs : s.SameAnswers t)
    (statement : MappedStatement) (parameter : Value) (bounds : RowBounds)
    (handler : Option Handler) (key : CacheKey) :
    ∃ outcome c₁ c₁' s₁ t₁,
      (direct c).queryWithKey statement parameter bounds handler key s =
        (outcome, direct c₁, s₁) ∧
      (direct c').queryWithKey statement parameter bounds handler key t =
        (outcome, direct c₁', t₁) ∧
      c₁.SameState c ∧ c₁'.SameState c' ∧ s₁.SameAnswers t₁ := by
  obtain ⟨hanswer, hsource⟩ := Connection.select_congr hc hs.source statement parameter bounds
  unfold queryWithKey
  generalize c.select s.source statement parameter bounds = p at hanswer hsource
  generalize c'.select t.source statement parameter bounds = q at hanswer hsource
  obtain ⟨result, d⟩ := p
  obtain ⟨result', d'⟩ := q
  obtain rfl : result = result' := hanswer
  cases result with
  | error e => exact ⟨_, c, c', _, _, rfl, rfl, .refl c, .refl c', hsource, hs.journal⟩
  | ok rows =>
    dsimp only
    rw [hs.journal]
    exact ⟨_, _, _, _, _, rfl, rfl, c.sameState_remember key, c'.sameState_remember key,
      hsource, rfl⟩

theorem sameAnswers_direct_queryWithKey (c : Connection) (statement : MappedStatement)
    (parameter : Value) (bounds : RowBounds) (handler : Option Handler) (key : CacheKey)
    (s : Shared) :
    ((direct c).queryWithKey statement parameter bounds handler key s).2.2.source.SameAnswers
      s.source := by
  have hselect := c.sameAnswers_select s.source statement parameter bounds
  unfold queryWithKey
  split
  · rename_i hfailed
    rw [hfailed] at hselect
    exact hselect
  · rename_i hanswered
    rw [hanswered] at hselect
    exact hselect

theorem Alike.queryWithKey (h : x.Alike y) (hs : s.Alike t) (statement : MappedStatement)
    (parameter : Value) (bounds : RowBounds) (handler : Option Handler) (key : CacheKey) :
    Agree (x.queryWithKey statement parameter bounds handler key s)
      (y.queryWithKey statement parameter bounds handler key t) := by
  induction h generalizing handler s t with
  | direct hc =>
    rename_i c c'
    obtain ⟨outcome, c₁, c₁', s₁, t₁, hx, hy, hleft, hright, hanswers⟩ :=
      direct_queryWithKey_congr hc hs.toSameAnswers statement parameter bounds handler key
    have hregions : s₁.regions.SameEntries t₁.regions := by
      have hs₁ := regions_direct_queryWithKey c statement parameter bounds handler key s
      have ht₁ := regions_direct_queryWithKey c' statement parameter bounds handler key t
      rw [hx] at hs₁
      rw [hy] at ht₁
      exact hs₁ ▸ ht₁ ▸ hs.regions
    rw [hx, hy]
    exact ⟨rfl, .direct ((hleft.trans hc).trans hright.symm), hanswers, hregions⟩
  | caching work hd ih =>
    rename_i x y
    have hpass : ∀ work : UnitOfWork,
        Agree (passed work (x.queryWithKey statement parameter bounds handler key s))
          (passed work (y.queryWithKey statement parameter bounds handler key t)) := by
      intro work
      obtain ⟨hanswer, hexecutors, hshared⟩ := ih hs handler
      exact ⟨hanswer, .caching work hexecutors, hshared⟩
    unfold Executor.queryWithKey
    cases statement.cache with
    | none => exact hpass work
    | some region =>
      dsimp only
      cases flushIfRequired work statement with
      | error e => exact ⟨rfl, .caching work hd, hs⟩
      | ok flushed =>
        dsimp only
        split_ifs
        · exact hpass flushed
        · exact ⟨rfl, .caching flushed hd, hs⟩
        · obtain ⟨hfound, hlooked⟩ := flushed.get_congr hs.regions region key
          have hleft := flushed.sameEntries_get s.regions region key
          have hright := flushed.sameEntries_get t.regions region key
          generalize flushed.get s.regions region key = p at hfound hlooked hleft
          generalize flushed.get t.regions region key = q at hfound hlooked hright
          obtain ⟨found, looked, store⟩ := p
          obtain ⟨found', looked', store'⟩ := q
          obtain rfl : found = found' := hfound
          obtain rfl : looked = looked' := hlooked
          have hstores := hs.withRegions ((hleft.trans hs.regions).trans hright.symm)
          cases found with
          | error e => exact ⟨rfl, .caching looked hd, hstores⟩
          | ok lookup =>
            cases lookup with
            | hit rows => exact ⟨rfl, .caching looked hd, hstores⟩
            | miss =>
              dsimp only
              have hfetch := ih hstores none
              generalize x.queryWithKey statement parameter bounds none key
                { s with regions := store } = p at hfetch
              generalize y.queryWithKey statement parameter bounds none key
                { t with regions := store' } = q at hfetch
              obtain ⟨outcome, delegate, after⟩ := p
              obtain ⟨outcome', delegate', after'⟩ := q
              obtain ⟨hanswer, hexecutors, hshared⟩ := hfetch
              obtain rfl : outcome = outcome' := hanswer
              cases outcome with
              | error e => exact ⟨rfl, .caching looked hexecutors, hshared⟩
              | ok rows =>
                dsimp only
                cases looked.put region key rows with
                | error e => exact ⟨rfl, .caching looked hexecutors, hshared⟩
                | ok staged => exact ⟨rfl, .caching staged hexecutors, hshared⟩

theorem Alike.query (h : x.Alike y) (hs : s.Alike t) (statement : MappedStatement)
    (parameter : Value) (bounds : RowBounds) (handler : Option Handler) :
    Agree (x.query statement parameter bounds handler s)
      (y.query statement parameter bounds handler t) := by
  unfold Executor.query keyFor environment
  rw [h.connection.environment]
  split
  · exact ⟨rfl, h, hs⟩
  · exact h.queryWithKey hs statement parameter bounds handler _

theorem Alike.queryCursor (h : x.Alike y) (hs : s.Alike t) (statement : MappedStatement)
    (parameter : Value) (bounds : RowBounds) :
    Agree (x.queryCursor statement parameter bounds s)
      (y.queryCursor statement parameter bounds t) := by
  induction h with
  | direct hc =>
    obtain ⟨hanswer, hsource⟩ := Connection.select_congr hc hs.source statement parameter bounds
    exact ⟨hanswer, .direct hc, hs.withSource hsource⟩
  | caching work hd ih =>
    unfold Executor.queryCursor
    cases flushIfRequired work statement with
    | error e => exact ⟨rfl, .caching work hd, hs⟩
    | ok flushed => exact ⟨ih.answer, .caching flushed ih.executors, ih.shared⟩

theorem Alike.update (h : x.Alike y) (hs : s.Alike t) (statement : MappedStatement)
    (parameter : Value) :
    Agree (x.update statement parameter s) (y.update statement parameter t) := by
  induction h with
  | direct hc =>
    have hagree := Connection.update_congr hc hs.source statement parameter
    exact ⟨hagree.answer, .direct hagree.state, hs.withSource hagree.source⟩
  | caching work hd ih =>
    unfold Executor.update
    cases flushIfRequired work statement with
    | error e => exact ⟨rfl, .caching work hd, hs⟩
    | ok flushed => exact ⟨ih.answer, .caching flushed ih.executors, ih.shared⟩

theorem Alike.flushStatements (h : x.Alike y) (hs : s.Alike t) :
    Agree (x.flushStatements s) (y.flushStatements t) := by
  induction h with
  | direct hc =>
    obtain ⟨hanswer, hsource⟩ := Connection.flush_congr hc hs.source
    exact ⟨hanswer, .direct hc, hs.withSource hsource⟩
  | caching work _ ih => exact ⟨ih.answer, .caching work ih.executors, ih.shared⟩

theorem Alike.rollback (h : x.Alike y) (hs : s.Alike t) (required : Bool) :
    Agree (x.rollback required s) (y.rollback required t) := by
  induction h with
  | direct hc =>
    have hagree := Connection.rollback_congr hc hs.source required
    exact ⟨hagree.answer, .direct hagree.state, hs.withSource hagree.source⟩
  | caching work _ ih => exact ⟨ih.answer, .caching _ ih.executors, ih.shared⟩

theorem Alike.commit (h : x.Alike y) (hs : s.Alike t) (required : Bool) :
    Agree (x.commit required s) (y.commit required t) := by
  induction h with
  | direct hc =>
    have hagree := Connection.commit_congr hc hs.source required
    exact ⟨hagree.answer, .direct hagree.state, hs.withSource hagree.source⟩
  | caching work _ ih =>
    rename_i x y _
    unfold Executor.commit
    generalize x.commit required s = p at ih
    generalize y.commit required t = q at ih
    obtain ⟨made, delegate, after⟩ := p
    obtain ⟨made', delegate', after'⟩ := q
    obtain ⟨hmade, hexecutors, hshared⟩ := ih
    obtain rfl : made = made' := hmade
    cases made with
    | error e => exact ⟨rfl, .caching work hexecutors, hshared⟩
    | ok reached =>
      cases reached with
      | false => exact ⟨rfl, .caching work hexecutors, hshared⟩
      | true =>
        obtain ⟨hresult, hwork, hregions⟩ := work.commitAll_congr hshared.regions
        refine ⟨?_, ?_, hshared.withRegions hregions⟩
        · dsimp only
          rw [hresult]
        · dsimp only
          rw [hwork]
          exact .caching _ hexecutors

theorem Alike.close (h : x.Alike y) (hs : s.Alike t) (forceRollback : Bool) :
    Agree (x.close forceRollback s) (y.close forceRollback t) := by
  induction h generalizing s t with
  | direct hc =>
    have hagree := Connection.close_congr hc hs.source forceRollback
    exact ⟨hagree.answer, .direct hagree.state, hs.withSource hagree.source⟩
  | caching work _ ih =>
    unfold Executor.close
    cases forceRollback with
    | true =>
      obtain ⟨hclosed, hexecutors, hshared⟩ := ih (hs.withRegions hs.regions)
      exact ⟨congrArg (joinClose · (.ok ())) hclosed, .caching _ hexecutors, hshared⟩
    | false =>
      obtain ⟨hpublished, hwork, hregions⟩ := work.commitAll_congr hs.regions
      obtain ⟨hclosed, hexecutors, hshared⟩ := ih (hs.withRegions hregions)
      refine ⟨?_, ?_, hshared⟩
      · calc
          _ = joinClose _ (work.commitAll s.regions).1 := congrArg (joinClose · _) hclosed
          _ = _ := congrArg (joinClose _) hpublished
      · refine (?_ : (Executor.caching (work.commitAll s.regions).2.1 _).Alike
          (Executor.caching (work.commitAll t.regions).2.1 _))
        rw [hwork]
        exact .caching _ hexecutors

theorem Alike.clearLocalCache (h : x.Alike y) : x.clearLocalCache.Alike y.clearLocalCache := by
  induction h with
  | direct hc => exact .direct ⟨hc.environment, hc.closed⟩
  | caching work _ ih => exact .caching work ih

theorem Agree.reply {α : Type} {p q : Except Error α × Executor × Shared} (h : Agree p q)
    (wrap : α → ExecutorReply) : Agree (reply wrap p) (reply wrap q) :=
  ⟨congrArg (fun result => (Outcome.ofExcept result).map wrap) h.answer, h.executors, h.shared⟩

theorem Alike.perform (h : x.Alike y) (hs : s.Alike t) (call : ExecutorCall) :
    Agree (x.perform s call) (y.perform t call) := by
  cases call with
  | query statement parameter bounds handler =>
    obtain ⟨hanswer, hexecutors, hshared⟩ := h.query hs statement parameter bounds handler
    exact ⟨congrArg (Except.map ExecutorReply.rows) hanswer, hexecutors, hshared⟩
  | queryCursor statement parameter bounds =>
    exact (h.queryCursor hs statement parameter bounds).reply .rows
  | update statement parameter => exact (h.update hs statement parameter).reply .count
  | flushStatements => exact (h.flushStatements hs).reply _
  | commit required => exact (h.commit hs required).reply .committed
  | rollback required => exact (h.rollback hs required).reply _
  | close forceRollback => exact (h.close hs forceRollback).reply _
  | clearLocalCache => exact ⟨rfl, h.clearLocalCache, hs⟩

end Executor

end DataMapper
