import DataMapper.Proofs.Executor.Selects
/-!
# Closing executors

A close leaves the connection closed, and the source counts it if the connection was open. No other
call closes a connection or opens one again. This holds whatever fails on the way: an outstanding
rollback, the publication of staged work or the close itself.
-/

namespace DataMapper

/-- Sources that have counted as many openings and as many closes. -/
structure DataSource.SameEnds (d d' : DataSource) : Prop where
  opened : d.opened = d'.opened
  closes : d.closes = d'.closes

/-! ## Connections -/

namespace Connection

variable {c : Connection} {d : DataSource}

theorem sameEnds_select (c : Connection) (d : DataSource) (statement : MappedStatement)
    (parameter : Value) (bounds : RowBounds) :
    (c.select d statement parameter bounds).2.SameEnds d := by
  unfold select
  split_ifs <;> exact ⟨rfl, rfl⟩

theorem sameEnds_update (c : Connection) (d : DataSource) (statement : MappedStatement)
    (parameter : Value) : (c.update d statement parameter).2.2.SameEnds d := by
  unfold update
  split_ifs <;> exact ⟨rfl, rfl⟩

theorem sameEnds_flush (c : Connection) (d : DataSource) : (c.flush d).2.SameEnds d := by
  unfold flush
  split_ifs <;> exact ⟨rfl, rfl⟩

theorem sameEnds_commit (c : Connection) (d : DataSource) (required : Bool) :
    (c.commit d required).2.2.SameEnds d := by
  unfold commit
  split_ifs <;> exact ⟨rfl, rfl⟩

theorem sameEnds_rollback (c : Connection) (d : DataSource) (required : Bool) :
    (c.rollback d required).2.2.SameEnds d := by
  unfold rollback
  split_ifs <;> exact ⟨rfl, rfl⟩

theorem select_of_closed (h : c.closed = true) (d : DataSource) (statement : MappedStatement)
    (parameter : Value) (bounds : RowBounds) :
    c.select d statement parameter bounds = (.error closedError, d) :=
  if_pos h

theorem flush_of_closed (h : c.closed = true) (d : DataSource) :
    c.flush d = (.error closedError, d) :=
  if_pos h

theorem commit_of_closed (h : c.closed = true) (d : DataSource) (required : Bool) :
    c.commit d required = (.error closedError, c, d) :=
  if_pos h

/-- A closed connection is left as it is. -/
theorem close_of_closed (h : c.closed = true) (d : DataSource) (forceRollback : Bool) :
    c.close d forceRollback = (.ok (), c, d) := by
  unfold close
  rw [if_pos h]

/-- An open connection rolls back first if it is told to, and counts as closed whether or not the
rollback or the close fails. -/
theorem close_of_open (h : c.closed = false) (d : DataSource) (forceRollback : Bool) :
    (c.close d forceRollback).2.1.closed = true ∧
      (c.close d forceRollback).2.2 =
        { (c.rollback d forceRollback).2.2 with closes := d.closes + 1 } := by
  have hcloses := (c.sameEnds_rollback d forceRollback).closes
  unfold close
  rw [h, if_neg Bool.false_ne_true]
  generalize c.rollback d forceRollback = rolled at hcloses
  obtain ⟨result, c', d'⟩ := rolled
  dsimp only at hcloses ⊢
  exact ⟨rfl, by rw [hcloses]⟩

/-- A rollback that fails is reported by the close. -/
theorem error_of_close (h : c.closed = false) {forceRollback : Bool} {e : Error}
    (hrollback : (c.rollback d forceRollback).1 = .error e) :
    (c.close d forceRollback).1 = .error e := by
  unfold close
  rw [h, if_neg Bool.false_ne_true]
  generalize c.rollback d forceRollback = rolled at hrollback
  obtain ⟨result, c', d'⟩ := rolled
  obtain rfl : result = .error e := hrollback
  rfl

end Connection

namespace Executor

variable {s : Shared}

/-! ## Closes -/

/-- A close reaches the connection, whatever becomes of the staged work before it. -/
theorem connection_close (x : Executor) (s : Shared) (forceRollback : Bool) :
    (x.close forceRollback s).2.1.connection =
        (x.connection.close s.source forceRollback).2.1 ∧
      (x.close forceRollback s).2.2.source =
        (x.connection.close s.source forceRollback).2.2 := by
  induction x generalizing s with
  | direct c => exact ⟨rfl, rfl⟩
  | caching work delegate ih =>
    unfold close
    generalize (if forceRollback = true then
      ((.ok (), work.rollbackAll, s.regions) : Except Error Unit × UnitOfWork × RegionStore)
      else work.commitAll s.regions) = published
    exact ih { s with regions := published.2.2 }

theorem isClosed_close (x : Executor) (s : Shared) (forceRollback : Bool) :
    (x.close forceRollback s).2.1.isClosed = true := by
  unfold isClosed
  rw [(x.connection_close s forceRollback).1]
  cases hclosed : x.connection.closed with
  | true => rw [Connection.close_of_closed hclosed, hclosed]
  | false => exact (Connection.close_of_open hclosed s.source forceRollback).1

/-- What the connection reports of a close is reported. -/
theorem error_of_connection_close (x : Executor) {forceRollback : Bool} {e : Error}
    (h : (x.connection.close s.source forceRollback).1 = .error e) :
    ∃ e', (x.close forceRollback s).1 = .error e' := by
  induction x generalizing s with
  | direct c => exact ⟨e, h⟩
  | caching work delegate ih =>
    unfold close
    generalize (if forceRollback = true then
      ((.ok (), work.rollbackAll, s.regions) : Except Error Unit × UnitOfWork × RegionStore)
      else work.commitAll s.regions) = published
    obtain ⟨result, work', regions⟩ := published
    obtain ⟨e', he'⟩ := ih (s := { s with regions }) h
    dsimp only
    rw [he']
    cases result with
    | ok _ => exact ⟨e', rfl⟩
    | error e'' => exact ⟨_, rfl⟩

/-! ## Other calls -/

/-- The connection is as open as before, and the source has counted no opening and no close. -/
structure KeepsOpen (x : Executor) (s : Shared) (p : Executor × Shared) : Prop where
  closed : p.1.isClosed = x.isClosed
  ends : p.2.source.SameEnds s.source

theorem KeepsOpen.of_source {x x' : Executor} {s s' : Shared} (hclosed : x'.isClosed = x.isClosed)
    (hsource : s'.source = s.source) : x.KeepsOpen s (x', s') := by
  refine ⟨hclosed, ?_⟩
  rw [hsource]
  exact ⟨rfl, rfl⟩

theorem keepsOpen_queryWithKey (x : Executor) (statement : MappedStatement) (parameter : Value)
    (bounds : RowBounds) (handler : Option Handler) (key : CacheKey) (s : Shared) :
    x.KeepsOpen s (x.queryWithKey statement parameter bounds handler key s).2 := by
  induction x generalizing handler s with
  | direct c =>
    have hends := c.sameEnds_select s.source statement parameter bounds
    unfold queryWithKey
    generalize c.select s.source statement parameter bounds = selected at hends
    obtain ⟨result, source⟩ := selected
    cases result <;> exact ⟨rfl, hends⟩
  | caching work delegate ih =>
    have hselects := selects_queryWithKey work delegate statement parameter bounds handler key s
    generalize (caching work delegate).queryWithKey statement parameter bounds handler key s =
      result at hselects
    cases hselects with
    | passed => exact ⟨(ih handler s).closed, (ih handler s).ends⟩
    | unflushed => exact .of_source rfl rfl
    | outParams => exact .of_source rfl rfl
    | unanswered => exact .of_source rfl rfl
    | hit => exact .of_source rfl rfl
    | @unfetched _ _ _ regions _ _ _ _ _ hfetch =>
      have hdelegate := ih none { s with regions }
      rw [hfetch] at hdelegate
      exact ⟨hdelegate.closed, hdelegate.ends⟩
    | @unstaged _ _ _ regions _ _ _ _ _ _ hfetch =>
      have hdelegate := ih none { s with regions }
      rw [hfetch] at hdelegate
      exact ⟨hdelegate.closed, hdelegate.ends⟩
    | @staged _ _ _ _ regions _ _ _ _ _ hfetch =>
      have hdelegate := ih none { s with regions }
      rw [hfetch] at hdelegate
      exact ⟨hdelegate.closed, hdelegate.ends⟩

theorem keepsOpen_queryCursor (x : Executor) (statement : MappedStatement) (parameter : Value)
    (bounds : RowBounds) (s : Shared) :
    x.KeepsOpen s (x.queryCursor statement parameter bounds s).2 := by
  induction x with
  | direct c => exact ⟨rfl, c.sameEnds_select s.source statement parameter bounds⟩
  | caching work delegate ih =>
    unfold queryCursor
    cases flushIfRequired work statement with
    | error e => exact .of_source rfl rfl
    | ok flushed => exact ⟨ih.closed, ih.ends⟩

theorem keepsOpen_update (x : Executor) (statement : MappedStatement) (parameter : Value)
    (s : Shared) : x.KeepsOpen s (x.update statement parameter s).2 := by
  induction x with
  | direct c =>
    exact ⟨(c.update_keeps s.source statement parameter).1.closed,
      c.sameEnds_update s.source statement parameter⟩
  | caching work delegate ih =>
    unfold update
    cases flushIfRequired work statement with
    | error e => exact .of_source rfl rfl
    | ok flushed => exact ⟨ih.closed, ih.ends⟩

theorem keepsOpen_flushStatements (x : Executor) (s : Shared) :
    x.KeepsOpen s (x.flushStatements s).2 := by
  induction x with
  | direct c => exact ⟨rfl, c.sameEnds_flush s.source⟩
  | caching work delegate ih => exact ⟨ih.closed, ih.ends⟩

theorem keepsOpen_commit (x : Executor) (required : Bool) (s : Shared) :
    x.KeepsOpen s (x.commit required s).2 := by
  induction x with
  | direct c =>
    exact ⟨(c.commit_keeps s.source required).1.closed, c.sameEnds_commit s.source required⟩
  | caching work delegate ih =>
    unfold commit
    generalize delegate.commit required s = committed at ih
    obtain ⟨result, delegate', s'⟩ := committed
    cases result with
    | error e => exact ⟨ih.closed, ih.ends⟩
    | ok reached => cases reached <;> exact ⟨ih.closed, ih.ends⟩

theorem keepsOpen_rollback (x : Executor) (required : Bool) (s : Shared) :
    x.KeepsOpen s (x.rollback required s).2 := by
  induction x with
  | direct c =>
    exact ⟨(c.rollback_keeps s.source required).1.closed, c.sameEnds_rollback s.source required⟩
  | caching work delegate ih => exact ⟨ih.closed, ih.ends⟩

theorem isClosed_clearLocalCache (x : Executor) : x.clearLocalCache.isClosed = x.isClosed := by
  induction x with
  | direct c => rfl
  | caching work delegate ih => exact ih

/-- Only a close closes. -/
theorem keepsOpen_perform (x : Executor) (s : Shared) {call : ExecutorCall}
    (hcall : ∀ forceRollback, call ≠ .close forceRollback) :
    x.KeepsOpen s (x.perform s call).2 := by
  cases call with
  | query statement parameter bounds handler =>
    unfold perform query
    dsimp only
    cases x.keyFor statement parameter bounds with
    | error e => exact .of_source rfl rfl
    | ok key => exact x.keepsOpen_queryWithKey statement parameter bounds handler key s
  | queryCursor statement parameter bounds =>
    exact x.keepsOpen_queryCursor statement parameter bounds s
  | update statement parameter => exact x.keepsOpen_update statement parameter s
  | flushStatements => exact x.keepsOpen_flushStatements s
  | commit required => exact x.keepsOpen_commit required s
  | rollback required => exact x.keepsOpen_rollback required s
  | close forceRollback => exact absurd rfl (hcall forceRollback)
  | clearLocalCache => exact .of_source x.isClosed_clearLocalCache rfl

/-! ## Closed executors -/

variable {x : Executor}

theorem not_ok_queryCursor (h : x.isClosed = true) (statement : MappedStatement)
    (parameter : Value) (bounds : RowBounds) (s : Shared) (rows : Rows) :
    (x.queryCursor statement parameter bounds s).1 ≠ .ok rows := by
  induction x with
  | direct c =>
    have hselect := c.select_of_closed h s.source statement parameter bounds
    intro hrows
    cases (congrArg Prod.fst hselect).symm.trans hrows
  | caching work delegate ih =>
    unfold queryCursor
    cases flushIfRequired work statement with
    | error e => rintro ⟨⟩
    | ok flushed => exact ih h

theorem not_ok_flushStatements (h : x.isClosed = true) (s : Shared) :
    (x.flushStatements s).1 ≠ .ok () := by
  induction x with
  | direct c =>
    have hflush := c.flush_of_closed h s.source
    intro hok
    cases (congrArg Prod.fst hflush).symm.trans hok
  | caching work delegate ih => exact ih h

theorem not_ok_commit (h : x.isClosed = true) (required : Bool) (s : Shared) (reached : Bool) :
    (x.commit required s).1 ≠ .ok reached := by
  induction x generalizing reached with
  | direct c =>
    have hcommit := c.commit_of_closed h s.source required
    intro hok
    cases (congrArg Prod.fst hcommit).symm.trans hok
  | caching work delegate ih =>
    rw [commit_of_not_made work (ih h true)]
    exact ih h reached

end Executor

end DataMapper
