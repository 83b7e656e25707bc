import DataMapper.Proofs.Executor.Custody
import DataMapper.Proofs.Staging.Ownership
/-!
# Errors of executors

All errors that executors report. A region is turned away only by a unit of work that knows another
one under its id, and a statement that cannot be bound is reported before anything else is done.
-/

namespace DataMapper

/-- The errors that an executor reports of a select under a key, or of any call that is no select.
A region may be turned away only where this is said. -/
inductive Error.Reported (turnsAway : Prop) : Error → Prop where
  | closed : Reported turnsAway Connection.closedError
  | source (point : FailPoint) : Reported turnsAway (DataSource.failure point)
  | outParams (statement : String) :
    Reported turnsAway (.cache (.outParamsNotCacheable statement))
  | backend (region reason : String) : Reported turnsAway (.cache (.backend region reason))
  | duplicate (h : turnsAway) (region : String) :
    Reported turnsAway (.cache (.duplicateRegion region))
  | regions (failures : List RegionFailure) :
    Reported turnsAway (.transaction (.regions "commit" failures))
  | compound (delegate cache : String) :
    Reported turnsAway (.transaction (.compound "close" delegate cache))

namespace Error.Reported

variable {turnsAway : Prop} {e : Error}

theorem not_binding (h : Reported turnsAway e) (cause : BindingError) : e ≠ .binding cause := by
  rintro rfl
  cases h

theorem not_duplicate (h : Reported False e) (region : String) :
    e ≠ .cache (.duplicateRegion region) := by
  rintro rfl
  cases h
  contradiction

end Error.Reported

theorem Outcome.error_of_map {α β : Type} {f : α → β} {outcome : Outcome α} {fault : Fault}
    (h : outcome.map f = .error fault) : outcome = .error fault := by
  cases outcome with
  | ok a => cases h
  | error fault' =>
    cases h
    rfl

/-! ## Connections -/

namespace Connection

variable {c : Connection} {d : DataSource} {e : Error} {turnsAway : Prop}

theorem reported_select {statement : MappedStatement} {parameter : Value} {bounds : RowBounds}
    (h : (c.select d statement parameter bounds).1 = .error e) : e.Reported turnsAway := by
  unfold select at h
  split_ifs at h
  · exact Except.error.inj h ▸ .closed
  · exact Except.error.inj h ▸ .source .query

theorem reported_update {statement : MappedStatement} {parameter : Value}
    (h : (c.update d statement parameter).1 = .error e) : e.Reported turnsAway := by
  unfold update at h
  split_ifs at h
  · exact Except.error.inj h ▸ .closed
  · exact Except.error.inj h ▸ .source .update

theorem reported_flush (h : (c.flush d).1 = .error e) : e.Reported turnsAway := by
  unfold flush at h
  split_ifs at h
  exact Except.error.inj h ▸ .closed

theorem reported_commit {required : Bool} (h : (c.commit d required).1 = .error e) :
    e.Reported turnsAway := by
  unfold commit at h
  split_ifs at h
  · exact Except.error.inj h ▸ .closed
  · exact Except.error.inj h ▸ .source .commit

theorem reported_rollback {required : Bool} (h : (c.rollback d required).1 = .error e) :
    e.Reported turnsAway := by
  unfold rollback at h
  split_ifs at h
  exact Except.error.inj h ▸ .source .rollback

theorem reported_close {forceRollback : Bool} (h : (c.close d forceRollback).1 = .error e) :
    e.Reported turnsAway := by
  unfold close at h
  split_ifs at h
  cases hrolled : c.rollback d forceRollback with
  | mk result rest =>
    rw [hrolled] at h
    cases result with
    | error e' =>
      have hreported : e'.Reported turnsAway := reported_rollback (by rw [hrolled])
      exact Except.error.inj h ▸ hreported
    | ok _ =>
      dsimp only at h
      split_ifs at h
      exact Except.error.inj h ▸ .source .close

end Connection

/-! ## Units of work -/

namespace UnitOfWork

variable {u : UnitOfWork} {r : RegionRef} {store : RegionStore} {e : Error}

theorem error_of_view? (h : u.view? r = .error e) : e = .cache (.duplicateRegion r.id) := by
  unfold view? at h
  split at h
  · cases h
  · split_ifs at h
    exact (Except.error.inj h).symm

theorem error_of_get {key : CacheKey} (h : (u.get store r key).1 = .error e) :
    u.view? r = .error e ∨ ∃ region reason, e = .cache (.backend region reason) := by
  unfold get at h
  cases hview : u.view? r with
  | error e' =>
    rw [hview] at h
    exact .inl (congrArg _ (Except.error.inj h))
  | ok v =>
    rw [hview] at h
    obtain ⟨reason, he⟩ := v.error_of_get store key e h
    exact .inr ⟨_, reason, he⟩

theorem error_of_commitAll (h : (u.commitAll store).1 = .error e) :
    ∃ failures, e = .transaction (.regions "commit" failures) := by
  unfold commitAll at h
  split at h
  · cases h
  · exact ⟨_, (Except.error.inj h).symm⟩

end UnitOfWork

/-! ## Executors -/

/-- A unit of work with the property turns regions of that kind away only where this is said. -/
def UnitOfWork.Knows (P : UnitOfWork → Prop) (on : RegionRef → Prop) (turnsAway : Prop) : Prop :=
  ∀ (u : UnitOfWork) (r : RegionRef) (e : Error), P u → on r → u.view? r = .error e → turnsAway

namespace Executor

variable {P : UnitOfWork → Prop} {J : RegionStore → Prop} {on : RegionRef → Prop}
  {turnsAway : Prop} {x : Executor} {s : Shared} {statement : MappedStatement} {e : Error}

theorem reported_view? (hknows : UnitOfWork.Knows P on turnsAway) {u : UnitOfWork}
    {r : RegionRef} (hu : P u) (hr : on r) (h : u.view? r = .error e) : e.Reported turnsAway := by
  rw [UnitOfWork.error_of_view? h]
  exact .duplicate (hknows u r e hu hr h) r.id

theorem reported_modified (hknows : UnitOfWork.Knows P on turnsAway) {u : UnitOfWork}
    {r : RegionRef} (hu : P u) (hr : on r) {f : Staged → UnitOfWork}
    (h : (u.view? r).map f = .error e) : e.Reported turnsAway := by
  cases hview : u.view? r with
  | ok v =>
    rw [hview] at h
    cases h
  | error e' =>
    rw [hview] at h
    exact Except.error.inj h ▸ reported_view? hknows hu hr hview

theorem reported_flushIfRequired (hknows : UnitOfWork.Knows P on turnsAway)
    {clears : RegionRef → Prop} (hon : statement.On on clears) {work : UnitOfWork} (hwork : P work)
    (h : flushIfRequired work statement = .error e) : e.Reported turnsAway := by
  unfold flushIfRequired at h
  cases hcache : statement.cache with
  | none =>
    rw [hcache] at h
    cases h
  | some region =>
    rw [hcache] at h
    dsimp only at h
    split_ifs at h
    exact reported_modified hknows hwork (hon region hcache).1 h

theorem not_error_of_deliver (handler : Option Handler) (rows : Rows) (journal : Journal) :
    (deliver handler rows journal).1 ≠ .error (.error e) := by
  unfold deliver
  cases handler with
  | none => simp
  | some h =>
    dsimp only
    split <;> simp

theorem reported_queryWithKey (h : Custody P J on (fun _ => True) fun _ _ _ => True)
    (hknows : UnitOfWork.Knows P on turnsAway) (hx : x.Every P)
    (hon : statement.On on fun _ => True) {parameter : Value} {bounds : RowBounds}
    {handler : Option Handler} {key : CacheKey}
    (he : (x.queryWithKey statement parameter bounds handler key s).1 = .error (.error e)) :
    e.Reported turnsAway := by
  induction x generalizing handler s with
  | direct c =>
    unfold queryWithKey at he
    cases hselect : c.select s.source statement parameter bounds with
    | mk result source =>
      rw [hselect] at he
      cases result with
      | error e' =>
        have hreported : e'.Reported turnsAway := Connection.reported_select (by rw [hselect])
        cases he
        exact hreported
      | ok rows => exact absurd he (not_error_of_deliver handler rows s.journal)
  | caching work delegate ih =>
    obtain ⟨hwork, hdelegate⟩ := hx
    have hselects := selects_queryWithKey work delegate statement parameter bounds handler key s
    generalize (caching work delegate).queryWithKey statement parameter bounds handler key s =
      result at hselects he
    cases hselects with
    | passed => exact ih hdelegate he
    | unflushed hflush =>
      cases he
      exact reported_flushIfRequired hknows hon hwork hflush
    | outParams =>
      cases he
      exact .outParams statement.id
    | unanswered hlooks hget =>
      cases he
      have hflushed := h.flush hon hwork hlooks.flush
      rcases UnitOfWork.error_of_get (congrArg Prod.fst hget) with hview | ⟨region, reason, rfl⟩
      · exact reported_view? hknows hflushed (hon _ hlooks.cache).1 hview
      · exact .backend region reason
    | hit => cases he
    | unfetched _ _ hfetch =>
      cases he
      exact ih hdelegate (congrArg Prod.fst hfetch)
    | unstaged hlooks hget _ hput =>
      cases he
      exact reported_modified hknows (h.lookUp hon hwork hlooks hget) (hon _ hlooks.cache).1 hput
    | staged => cases he

theorem reported_queryCursor (hknows : UnitOfWork.Knows P on turnsAway) (hx : x.Every P)
    (hon : statement.On on fun _ => True) {parameter : Value} {bounds : RowBounds}
    (he : (x.queryCursor statement parameter bounds s).1 = .error e) : e.Reported turnsAway := by
  induction x with
  | direct c => exact Connection.reported_select he
  | caching work delegate ih =>
    unfold queryCursor at he
    cases hflush : flushIfRequired work statement with
    | error e' =>
      rw [hflush] at he
      exact Except.error.inj he ▸ reported_flushIfRequired hknows hon hx.1 hflush
    | ok flushed =>
      rw [hflush] at he
      exact ih hx.2 he

theorem reported_update (hknows : UnitOfWork.Knows P on turnsAway) (hx : x.Every P)
    (hon : statement.On on fun _ => True) {parameter : Value}
    (he : (x.update statement parameter s).1 = .error e) : e.Reported turnsAway := by
  induction x with
  | direct c => exact Connection.reported_update he
  | caching work delegate ih =>
    unfold update at he
    cases hflush : flushIfRequired work statement with
    | error e' =>
      rw [hflush] at he
      exact Except.error.inj he ▸ reported_flushIfRequired hknows hon hx.1 hflush
    | ok flushed =>
      rw [hflush] at he
      exact ih hx.2 he

theorem reported_flushStatements (he : (x.flushStatements s).1 = .error e) :
    e.Reported turnsAway := by
  induction x with
  | direct c => exact Connection.reported_flush he
  | caching work delegate ih => exact ih he

theorem reported_rollback {required : Bool} (he : (x.rollback required s).1 = .error e) :
    e.Reported turnsAway := by
  induction x with
  | direct c => exact Connection.reported_rollback he
  | caching work delegate ih => exact ih he

theorem reported_commit {required : Bool} (he : (x.commit required s).1 = .error e) :
    e.Reported turnsAway := by
  induction x with
  | direct c => exact Connection.reported_commit he
  | caching work delegate ih =>
    by_cases hmade : (delegate.commit required s).1 = .ok true
    · rw [commit_of_made work hmade] at he
      cases hpublished : (work.commitAll (delegate.commit required s).2.2.regions).1 with
      | ok _ =>
        rw [hpublished] at he
        cases he
      | error e' =>
        rw [hpublished] at he
        obtain ⟨failures, rfl⟩ := UnitOfWork.error_of_commitAll hpublished
        exact Except.error.inj he ▸ .regions failures
    · rw [commit_of_not_made work hmade] at he
      exact ih he

theorem reported_close {forceRollback : Bool} (he : (x.close forceRollback s).1 = .error e) :
    e.Reported turnsAway := by
  induction x generalizing s e with
  | direct c => exact Connection.reported_close he
  | caching work delegate ih =>
    have hpublished : ∀ e',
        (if forceRollback = true then
          ((.ok (), work.rollbackAll, s.regions) : Except Error Unit × UnitOfWork × RegionStore)
          else work.commitAll s.regions).1 = .error e' → e'.Reported turnsAway := by
      intro e' he'
      split_ifs at he'
      obtain ⟨failures, rfl⟩ := UnitOfWork.error_of_commitAll he'
      exact .regions failures
    unfold close at he
    generalize (if forceRollback = true then
      ((.ok (), work.rollbackAll, s.regions) : Except Error Unit × UnitOfWork × RegionStore)
      else work.commitAll s.regions) = published at he hpublished
    obtain ⟨result, work', regions⟩ := published
    dsimp only at he hpublished
    cases hclosed : (delegate.close forceRollback { s with regions }).1 with
    | ok _ =>
      rw [hclosed] at he
      cases result with
      | ok _ => cases he
      | error e' => exact hpublished e he
    | error e' =>
      rw [hclosed] at he
      cases result with
      | ok _ => exact Except.error.inj he ▸ ih hclosed
      | error e'' => exact Except.error.inj he ▸ .compound _ _

theorem error_of_reply {α : Type} {wrap : α → ExecutorReply}
    {result : Except Error α × Executor × Shared}
    (he : (reply wrap result).1 = .error (.error e)) : result.1 = .error e := by
  obtain ⟨result, x', s'⟩ := result
  cases result with
  | ok a => cases he
  | error e' =>
    cases he
    rfl

/-- Apart from a statement that cannot be bound, which nothing is done for, executors report no
other errors. -/
theorem error_of_perform (h : Custody P J on (fun _ => True) fun _ _ _ => True)
    (hknows : UnitOfWork.Knows P on turnsAway) (hx : x.Every P) {call : ExecutorCall}
    (hon : (ExecutorRequest.call call).On on fun _ => True)
    (he : (x.perform s call).1 = .error (.error e)) :
    e.Reported turnsAway ∨
      ∃ statement parameter bounds handler cause, call = .query statement parameter bounds handler ∧
        x.keyFor statement parameter bounds = .error cause ∧ e = .binding cause := by
  cases call with
  | query statement parameter bounds handler =>
    unfold perform query at he
    dsimp only at he
    cases hkey : x.keyFor statement parameter bounds with
    | error cause =>
      rw [hkey] at he
      cases he
      exact .inr ⟨statement, parameter, bounds, handler, cause, rfl, hkey, rfl⟩
    | ok key =>
      rw [hkey] at he
      exact .inl (reported_queryWithKey h hknows hx (hon statement rfl) (Outcome.error_of_map he))
  | queryCursor statement parameter bounds =>
    exact .inl (reported_queryCursor hknows hx (hon statement rfl) (error_of_reply he))
  | update statement parameter =>
    exact .inl (reported_update hknows hx (hon statement rfl) (error_of_reply he))
  | flushStatements => exact .inl (reported_flushStatements (error_of_reply he))
  | commit required => exact .inl (reported_commit (error_of_reply he))
  | rollback required => exact .inl (reported_rollback (error_of_reply he))
  | close forceRollback => exact .inl (reported_close (error_of_reply he))
  | clearLocalCache => cases he

theorem every_true (x : Executor) : x.Every fun _ => True := by
  induction x with
  | direct c => trivial
  | caching work delegate ih => exact ⟨trivial, ih⟩

/-- A failure of binding is that of a select's own key, and comes before all else. -/
theorem perform_eq_of_binding {call : ExecutorCall} {cause : BindingError}
    (h : (x.perform s call).1 = .error (.error (.binding cause))) :
    (∃ statement parameter bounds handler, call = .query statement parameter bounds handler) ∧
      (x.perform s call).2 = (x, s) := by
  have hcustody : Custody (fun _ => True) (fun _ => True) (fun _ => True) (fun _ => True)
      fun _ _ _ => True := by
    constructor <;> exact fun _ => by intros; trivial
  have hknows : UnitOfWork.Knows (fun _ => True) (fun _ => True) True :=
    fun _ _ _ _ _ _ => trivial
  rcases error_of_perform hcustody hknows x.every_true
      (fun _ _ _ _ => ⟨trivial, fun _ => trivial⟩) h with
    hreported | ⟨statement, parameter, bounds, handler, cause', rfl, hkey, -⟩
  · exact absurd rfl (hreported.not_binding cause)
  · refine ⟨⟨statement, parameter, bounds, handler, rfl⟩, ?_⟩
    unfold perform query
    dsimp only
    rw [hkey]

end Executor

end DataMapper
