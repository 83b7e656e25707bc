import DataMapper.Proofs.Executor.Alike
import DataMapper.Proofs.Executor.Units
/-!
# What a connection remembers

The keys that a connection remembers enter neither an answer nor the shared state. A commit that
fails in the data source makes it forget them, and changes nothing else.
-/

namespace DataMapper

namespace Connection

variable {c c' : Connection}

theorem select_eq_of_sameState (h : c.SameState c') (source : DataSource)
    (statement : MappedStatement) (parameter : Value) (bounds : RowBounds) :
    c.select source statement parameter bounds = c'.select source statement parameter bounds := by
  unfold select
  rw [h.closed]

theorem flush_eq_of_sameState (h : c.SameState c') (source : DataSource) :
    c.flush source = c'.flush source := by
  unfold flush
  rw [h.closed]

theorem update_source_eq (h : c.SameState c') (source : DataSource) (statement : MappedStatement)
    (parameter : Value) :
    (c.update source statement parameter).2.2 = (c'.update source statement parameter).2.2 := by
  unfold update
  rw [h.closed]
  split_ifs <;> rfl

theorem commit_source_eq (h : c.SameState c') (source : DataSource) (required : Bool) :
    (c.commit source required).2.2 = (c'.commit source required).2.2 := by
  unfold commit
  rw [h.closed]
  split_ifs <;> rfl

theorem rollback_source_eq (h : c.SameState c') (source : DataSource) (required : Bool) :
    (c.rollback source required).2.2 = (c'.rollback source required).2.2 := by
  unfold rollback
  rw [h.closed]
  split_ifs <;> rfl

theorem close_source_eq (h : c.SameState c') (source : DataSource) (forceRollback : Bool) :
    (c.close source forceRollback).2.2 = (c'.close source forceRollback).2.2 := by
  unfold close
  rw [h.closed]
  split_ifs
  · rfl
  · dsimp only
    rw [rollback_source_eq h]

/-- A commit that fails leaves the data source alone. -/
theorem commit_of_error {source : DataSource} {required : Bool} {e : Error}
    (h : (c.commit source required).1 = .error e) :
    (c.commit source required).2.1.SameState c ∧ (c.commit source required).2.2 = source := by
  refine ⟨(c.commit_keeps source required).1, ?_⟩
  unfold commit at h ⊢
  split_ifs at h ⊢
  · rfl
  · rfl

end Connection

namespace Executor

variable {x y : Executor} {s : Shared}

/-! ## Calls on one shared state -/

theorem Alike.shared_queryWithKey (h : x.Alike y) (s : Shared) (statement : MappedStatement)
    (parameter : Value) (bounds : RowBounds) (handler : Option Handler) (key : CacheKey) :
    (x.queryWithKey statement parameter bounds handler key s).2.2 =
      (y.queryWithKey statement parameter bounds handler key s).2.2 := by
  induction h generalizing handler s with
  | direct hc =>
    unfold Executor.queryWithKey
    rw [Connection.select_eq_of_sameState hc]
    split <;> rfl
  | caching work hd ih =>
    rename_i x y
    unfold Executor.queryWithKey
    cases statement.cache with
    | none => exact ih s handler
    | some region =>
      dsimp only
      cases flushIfRequired work statement with
      | error e => rfl
      | ok flushed =>
        dsimp only
        split_ifs
        · exact ih s handler
        · rfl
        · generalize flushed.get s.regions region key = answer
          obtain ⟨found, looked, store⟩ := answer
          cases found with
          | error e => rfl
          | ok lookup =>
            cases lookup with
            | hit rows => rfl
            | miss =>
              dsimp only
              -- Whether the rows are staged hangs on the answer, which is the same already.
              have hanswer := (hd.queryWithKey (.refl { s with regions := store }) statement
                parameter bounds none key).answer
              have hshared := ih { s with regions := store } none
              generalize x.queryWithKey statement parameter bounds none key
                { s with regions := store } = p at hanswer hshared
              generalize y.queryWithKey statement parameter bounds none key
                { s with regions := store } = q at hanswer hshared
              obtain ⟨outcome, delegate, after⟩ := p
              obtain ⟨outcome', delegate', after'⟩ := q
              obtain rfl : outcome = outcome' := hanswer
              obtain rfl : after = after' := hshared
              cases outcome with
              | error e => rfl
              | ok rows =>
                dsimp only
                cases looked.put region key rows <;> rfl

theorem Alike.shared_query (h : x.Alike y) (s : Shared) (statement : MappedStatement)
    (parameter : Value) (bounds : RowBounds) (handler : Option Handler) :
    (x.query statement parameter bounds handler s).2.2 =
      (y.query statement parameter bounds handler s).2.2 := by
  unfold Executor.query keyFor environment
  rw [h.connection.environment]
  split
  · rfl
  · exact h.shared_queryWithKey s statement parameter bounds handler _

theorem Alike.shared_queryCursor (h : x.Alike y) (s : Shared) (statement : MappedStatement)
    (parameter : Value) (bounds : RowBounds) :
    (x.queryCursor statement parameter bounds s).2.2 =
      (y.queryCursor statement parameter bounds s).2.2 := by
  induction h with
  | direct hc =>
    unfold Executor.queryCursor
    rw [Connection.select_eq_of_sameState hc]
  | caching work _ ih =>
    unfold Executor.queryCursor
    cases flushIfRequired work statement with
    | error e => rfl
    | ok flushed => exact ih

theorem Alike.shared_update (h : x.Alike y) (s : Shared) (statement : MappedStatement)
    (parameter : Value) :
    (x.update statement parameter s).2.2 = (y.update statement parameter s).2.2 := by
  induction h with
  | direct hc =>
    unfold Executor.update
    dsimp only
    rw [Connection.update_source_eq hc]
  | caching work _ ih =>
    unfold Executor.update
    cases flushIfRequired work statement with
    | error e => rfl
    | ok flushed => exact ih

theorem Alike.shared_flushStatements (h : x.Alike y) (s : Shared) :
    (x.flushStatements s).2.2 = (y.flushStatements s).2.2 := by
  induction h with
  | direct hc =>
    unfold Executor.flushStatements
    rw [Connection.flush_eq_of_sameState hc]
  | caching work _ ih => exact ih

theorem Alike.shared_rollback (h : x.Alike y) (s : Shared) (required : Bool) :
    (x.rollback required s).2.2 = (y.rollback required s).2.2 := by
  induction h with
  | direct hc =>
    unfold Executor.rollback
    dsimp only
    rw [Connection.rollback_source_eq hc]
  | caching work _ ih => exact ih

theorem Alike.shared_commit (h : x.Alike y) (s : Shared) (required : Bool) :
    (x.commit required s).2.2 = (y.commit required s).2.2 := by
  induction h with
  | direct hc =>
    unfold Executor.commit
    dsimp only
    rw [Connection.commit_source_eq hc]
  | caching work hd ih =>
    rename_i x y
    have hanswer := (hd.commit (.refl s) required).answer
    unfold Executor.commit
    generalize x.commit required s = p at hanswer ih
    generalize y.commit required s = q at hanswer ih
    obtain ⟨made, delegate, after⟩ := p
    obtain ⟨made', delegate', after'⟩ := q
    obtain rfl : made = made' := hanswer
    obtain rfl : after = after' := ih
    cases made with
    | error e => rfl
    | ok reached => cases reached <;> rfl

theorem Alike.shared_close (h : x.Alike y) (s : Shared) (forceRollback : Bool) :
    (x.close forceRollback s).2.2 = (y.close forceRollback s).2.2 := by
  induction h generalizing s with
  | direct hc =>
    unfold Executor.close
    dsimp only
    rw [Connection.close_source_eq hc]
  | caching work _ ih =>
    unfold Executor.close
    exact ih _

/-- Executors that differ in what their connections remember leave one shared state. -/
theorem Alike.shared_perform (h : x.Alike y) (s : Shared) (call : ExecutorCall) :
    (x.perform s call).2.2 = (y.perform s call).2.2 := by
  cases call with
  | query statement parameter bounds handler =>
    exact h.shared_query s statement parameter bounds handler
  | queryCursor statement parameter bounds =>
    exact h.shared_queryCursor s statement parameter bounds
  | update statement parameter => exact h.shared_update s statement parameter
  | flushStatements => exact h.shared_flushStatements s
  | commit required => exact h.shared_commit s required
  | rollback required => exact h.shared_rollback s required
  | close forceRollback => exact h.shared_close s forceRollback
  | clearLocalCache => rfl

/-! ## Commits that fail -/

theorem Alike.work_eq (h : x.Alike y) : x.work = y.work := by
  cases h with
  | direct => rfl
  | caching => rfl

/-- A commit that fails in the data source leaves what is staged and what is shared as it was. -/
theorem commit_of_error (x : Executor) {required : Bool} {e : Error}
    (h : (x.connection.commit s.source required).1 = .error e) :
    (x.commit required s).1 = .error e ∧ (x.commit required s).2.1.Alike x ∧
      (x.commit required s).2.2 = s := by
  induction x with
  | direct c =>
    obtain ⟨hstate, hsource⟩ := Connection.commit_of_error h
    refine ⟨h, .direct hstate, ?_⟩
    change { s with source := (c.commit s.source required).2.2 } = s
    exact congrArg (fun source => { s with source }) hsource
  | caching work delegate ih =>
    obtain ⟨hanswer, hexecutor, hshared⟩ := ih h
    rw [commit_of_not_made work (by rw [hanswer]; exact nofun)]
    exact ⟨hanswer, .caching work hexecutor, hshared⟩

end Executor

end DataMapper
