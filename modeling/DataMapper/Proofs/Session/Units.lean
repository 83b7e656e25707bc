import DataMapper.Proofs.Executor.Units
import DataMapper.Proofs.Session.Publication
/-!
# Units of work under the calls of sessions

A call of a session publishes its unit of work, undoes it, or keeps it. A session that does not
commit by itself stays written as long as its calls do neither of the first two.
-/

namespace DataMapper

namespace Session

variable {s : Session} {catalog : Catalog} {shared : Shared} {call : SessionCall} {cached : Bool}
  {P : UnitOfWork → Prop}

/-- The call rolls back what is staged. -/
def Undoes (s : Session) : SessionCall → Prop
  | .rollback force => s.poisoned = false ∧ s.boundaryRequired force = true
  | .close => s.poisoned = false ∧ s.boundaryRequired false = true
  | _ => False

/-- The end of the session rolls back what is staged. -/
def UndoesAtEnd (s : Session) : Prop :=
  s.executor.isClosed = false ∧ s.boundaryRequired false = true

theorem undoes_of_request {request : ExecutorCall} (hrequest : s.request catalog call = .ok request)
    (h : request.Undoes) : s.Undoes call := by
  cases call with
  | rollback force =>
    obtain ⟨hpoisoned, rfl⟩ := eq_of_unsealed hrequest
    exact ⟨hpoisoned, h⟩
  | close =>
    obtain ⟨hpoisoned, rfl⟩ := eq_of_unsealed hrequest
    exact ⟨hpoisoned, h⟩
  | commit force =>
    obtain ⟨_, rfl⟩ := eq_of_unsealed hrequest
    exact h
  | flushStatements =>
    obtain ⟨_, rfl⟩ := eq_of_unsealed hrequest
    exact h
  | clearCache =>
    obtain ⟨_, rfl⟩ := eq_of_unsealed hrequest
    exact h
  | _ =>
    obtain ⟨statement, _, rfl⟩ := exists_of_named hrequest
    exact h

theorem exists_request_of_undoes (h : s.Undoes call) (catalog : Catalog) :
    ∃ request, s.request catalog call = .ok request ∧ request.Undoes := by
  cases call with
  | rollback force => exact ⟨_, unsealed_eq h.1 _, h.2⟩
  | close => exact ⟨_, unsealed_eq h.1 _, h.2⟩
  | _ => exact h.elim

theorem boundaryRequired_of_dirty (hmanual : s.autoCommit = false) (hdirty : s.dirty = true)
    (force : Bool) : s.boundaryRequired force = true := by
  unfold boundaryRequired
  rw [hmanual, hdirty]
  exact Bool.or_true force

theorem boundaryRequired_of_autoCommit (hauto : s.autoCommit = true) (force : Bool) :
    s.boundaryRequired force = force := by
  unfold boundaryRequired
  rw [hauto]
  exact Bool.or_false force

/-- A session that has retained its unit of work, up to edits, and counts as written if it did. -/
structure Retains (P : UnitOfWork → Prop) (cached : Bool) (s s' : Session) : Prop where
  executor : s'.executor.Edits P cached s.executor.isClosed
  autoCommit : s'.autoCommit = s.autoCommit
  dirty : s.autoCommit = false → s.dirty = true → s'.dirty = true

theorem Retains.refl (hx : s.executor.Simple cached) (hwork : P s.executor.work) :
    Retains P cached s s :=
  ⟨⟨hx, hwork, rfl⟩, rfl, fun _ h => h⟩

/-- A written session that does not commit by itself stays written, unless a boundary is met. -/
theorem dirtyAfter_of_request (hx : s.executor.Simple cached) {request : ExecutorCall}
    (hrequest : s.request catalog call = .ok request)
    (hpublishes : ¬ request.Publishes s.executor shared.source) (hundoes : ¬ request.Undoes)
    (hmanual : s.autoCommit = false) (hdirty : s.dirty = true) :
    call.dirtyAfter (s.executor.perform shared request).1 s.dirty = true := by
  have hrequired := boundaryRequired_of_dirty hmanual hdirty
  cases call with
  | commit force =>
    obtain ⟨_, rfl⟩ := eq_of_unsealed hrequest
    rw [hrequired] at hpublishes ⊢
    cases houtcome : (s.executor.perform shared (.commit true)).1 with
    | error fault => exact hdirty
    | ok answer => exact absurd (Executor.made_of_commit hx houtcome) hpublishes
  | rollback force =>
    obtain ⟨_, rfl⟩ := eq_of_unsealed hrequest
    exact absurd (hrequired force) hundoes
  | close =>
    obtain ⟨_, rfl⟩ := eq_of_unsealed hrequest
    exact absurd (hrequired false) hundoes
  | insert id parameter => rfl
  | update id parameter => rfl
  | delete id parameter => rfl
  | _ => exact hdirty

theorem retains_perform (hP : UnitOfWork.Lasting P) (hx : s.executor.Simple cached)
    (hwork : P s.executor.work) (hpublishes : ¬ s.Publishes shared.source call)
    (hundoes : ¬ s.Undoes call) : Retains P cached s (s.perform catalog shared call).2.1 := by
  rw [perform_eq]
  cases hrequest : s.request catalog call with
  | error e => exact .refl hx hwork
  | ok request =>
    have hpublishes' : ¬ request.Publishes s.executor shared.source :=
      fun hp => hpublishes (publishes_of_request hrequest hp)
    have hundoes' : ¬ request.Undoes := fun hu => hundoes (undoes_of_request hrequest hu)
    exact ⟨Executor.edits_perform hP hx hwork hpublishes' hundoes', rfl,
      dirtyAfter_of_request hx hrequest hpublishes' hundoes'⟩

/-- What a call leaves that publishes. -/
structure Published (cached : Bool) (s : Session) (shared : Shared) (p : Result SessionReply) :
    Prop where
  simple : p.2.1.executor.Simple cached
  work : p.2.1.executor.work = s.executor.work.rollbackAll
  regions : p.2.2.regions =
    (UnitOfWork.publishAll s.executor.work.views.entries shared.regions).2
  accepted : ∀ answer, p.1 = .ok answer →
    (UnitOfWork.publishAll s.executor.work.views.entries shared.regions).1 = []

theorem published_perform (hx : s.executor.Simple cached) (h : s.Publishes shared.source call) :
    Published cached s shared (s.perform catalog shared call) := by
  obtain ⟨request, hrequest, hpublishes⟩ := exists_request_of_publishes h catalog
  obtain ⟨hsimple, hwork, hregions, haccepted⟩ := Executor.published_perform hx hpublishes
  rw [perform_eq, hrequest]
  refine ⟨hsimple, hwork, hregions, fun answer hanswer => ?_⟩
  unfold served at hanswer
  dsimp only at hanswer
  cases houtcome : (s.executor.perform shared request).1 with
  | error fault =>
    rw [houtcome] at hanswer
    cases hanswer
  | ok answer' => exact haccepted answer' houtcome

theorem work_perform_of_undoes (hx : s.executor.Simple cached) (h : s.Undoes call) :
    (s.perform catalog shared call).2.1.executor.work = s.executor.work.rollbackAll := by
  obtain ⟨request, hrequest, hundoes⟩ := exists_request_of_undoes h catalog
  rw [perform_eq, hrequest]
  exact (Executor.undone_perform hx hundoes).2

theorem rolledBack_perform (hx : s.executor.Simple cached) (hopen : s.executor.isClosed = false)
    (h : s.Undoes call) :
    shared.source.fails .rollback = true ∨
      shared.source.rollbacks < (s.perform catalog shared call).2.2.source.rollbacks := by
  obtain ⟨request, hrequest, hundoes⟩ := exists_request_of_undoes h catalog
  rw [perform_eq, hrequest]
  exact Executor.rolledBack_perform hx hopen hundoes

theorem simple_perform (hx : s.executor.Simple cached) :
    (s.perform catalog shared call).2.1.executor.Simple cached := by
  rw [perform_eq]
  cases s.request catalog call with
  | error e => exact hx
  | ok request => exact hx.perform

/-! ## The end of a session -/

/-- The end of an open session is a close. -/
theorem drop_of_open (hopen : s.executor.isClosed = false) (shared : Shared) :
    s.drop shared =
      (s.executor.perform shared (.close (s.boundaryRequired false))).2.2 := by
  unfold drop
  rw [hopen, if_neg Bool.false_ne_true]
  rfl

theorem regions_drop_of_publishes (hx : s.executor.Simple cached) (h : s.PublishesAtEnd) :
    (s.drop shared).regions =
      (UnitOfWork.publishAll s.executor.work.views.entries shared.regions).2 := by
  obtain ⟨hopen, hrequired⟩ := h
  have hcall : (ExecutorCall.close false).Publishes s.executor shared.source := rfl
  rw [drop_of_open hopen, hrequired]
  exact (Executor.published_perform hx hcall).regions

theorem rolledBack_drop (hx : s.executor.Simple cached) (h : s.UndoesAtEnd) :
    shared.source.fails .rollback = true ∨
      shared.source.rollbacks < (s.drop shared).source.rollbacks := by
  obtain ⟨hopen, hrequired⟩ := h
  rw [drop_of_open hopen, hrequired]
  exact Executor.rolledBack_perform hx hopen rfl

end Session

end DataMapper
