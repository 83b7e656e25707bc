import DataMapper.Proofs.Executor.Closing
import DataMapper.Proofs.Session.Publication
/-!
# Closing sessions

A session closes its connection by a close that no handler has kept it from, or by its end. Both
roll back what is uncommitted, and count where the connection was still open.
-/

namespace DataMapper

namespace Session

variable {s : Session} {catalog : Catalog} {shared : Shared} {call : SessionCall}

/-- The call closes the session, unless a broken handler has sealed it. -/
def Closes (s : Session) (call : SessionCall) : Prop :=
  call = .close ∧ s.poisoned = false

instance (s : Session) (call : SessionCall) : Decidable (s.Closes call) :=
  inferInstanceAs (Decidable (_ ∧ _))

/-- The source once the session has closed its connection, with a rollback of what it has written
unless it commits by itself. -/
def sourceClosed (s : Session) (source : DataSource) : DataSource :=
  (s.executor.connection.close source (s.boundaryRequired false)).2.2

theorem not_close_of_request {request : ExecutorCall}
    (hrequest : s.request catalog call = .ok request) (h : ¬ s.Closes call)
    (forceRollback : Bool) : request ≠ .close forceRollback := by
  cases call with
  | close => exact absurd ⟨rfl, (eq_of_unsealed hrequest).1⟩ h
  | commit force =>
    rw [(eq_of_unsealed hrequest).2]
    exact nofun
  | rollback force =>
    rw [(eq_of_unsealed hrequest).2]
    exact nofun
  | flushStatements =>
    rw [(eq_of_unsealed hrequest).2]
    exact nofun
  | clearCache =>
    rw [(eq_of_unsealed hrequest).2]
    exact nofun
  | _ =>
    obtain ⟨statement, _, rfl⟩ := exists_of_named hrequest
    exact nofun

/-- Any other call leaves the connection as open as it was. -/
theorem keepsOpen_perform (h : ¬ s.Closes call) :
    s.executor.KeepsOpen shared
      ((s.perform catalog shared call).2.1.executor, (s.perform catalog shared call).2.2) := by
  rw [perform_eq]
  cases hrequest : s.request catalog call with
  | error e => exact .of_source rfl rfl
  | ok request =>
    obtain ⟨hclosed, hends⟩ :=
      s.executor.keepsOpen_perform shared (not_close_of_request hrequest h)
    exact ⟨hclosed, hends⟩

theorem perform_of_closes (h : s.Closes call) :
    (s.perform catalog shared call).2.1.executor.isClosed = true ∧
      (s.perform catalog shared call).2.2.source = s.sourceClosed shared.source := by
  obtain ⟨rfl, hpoisoned⟩ := h
  have hrequest : s.request catalog .close = .ok (.close (s.boundaryRequired false)) :=
    unsealed_eq hpoisoned _
  rw [perform_eq, hrequest]
  exact ⟨s.executor.isClosed_close shared _, (s.executor.connection_close shared _).2⟩

/-- A session that is closed already ends without a second close. -/
theorem source_drop (s : Session) (shared : Shared) :
    (s.drop shared).source = s.sourceClosed shared.source := by
  unfold drop sourceClosed
  split_ifs with hclosed
  · rw [Connection.close_of_closed hclosed]
  · exact (s.executor.connection_close shared _).2

theorem sourceClosed_of_closed (h : s.executor.isClosed = true) (source : DataSource) :
    s.sourceClosed source = source := by
  unfold sourceClosed
  rw [Connection.close_of_closed h]

theorem sourceClosed_of_open (h : s.executor.isClosed = false) (source : DataSource) :
    s.sourceClosed source =
      { (s.executor.connection.rollback source (s.boundaryRequired false)).2.2 with
        closes := source.closes + 1 } :=
  (Connection.close_of_open h source _).2

theorem opened_sourceClosed (s : Session) (source : DataSource) :
    (s.sourceClosed source).opened = source.opened := by
  cases hclosed : s.executor.isClosed with
  | true => rw [sourceClosed_of_closed hclosed]
  | false =>
    rw [sourceClosed_of_open hclosed]
    exact (s.executor.connection.sameEnds_rollback source _).opened

/-- A close whose rollback fails says so. -/
theorem not_ok_of_closes (h : s.Closes call) (hopen : s.executor.isClosed = false)
    (hrequired : s.boundaryRequired false = true)
    (hfails : shared.source.fails .rollback = true) (answer : SessionReply) :
    (s.perform catalog shared call).1 ≠ .ok answer := by
  obtain ⟨rfl, hpoisoned⟩ := h
  have hopen' : s.executor.connection.closed = false := hopen
  have hrollback : (s.executor.connection.rollback shared.source true).1 =
      .error (DataSource.failure .rollback) := by
    simp [Connection.rollback, hopen', hfails]
  obtain ⟨e, hclose⟩ := s.executor.error_of_connection_close
    (Connection.error_of_close hopen hrollback)
  have hrequest : s.request catalog .close = .ok (.close true) := by
    rw [← hrequired]
    exact unsealed_eq hpoisoned _
  have hperform : (s.executor.perform shared (.close true)).1 = .error (.error e) := by
    unfold Executor.perform Executor.reply
    dsimp only
    rw [hclose]
    rfl
  rw [perform_eq, hrequest]
  unfold served
  dsimp only
  rw [hperform]
  exact nofun

end Session

end DataMapper
