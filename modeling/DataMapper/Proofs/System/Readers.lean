import DataMapper.Proofs.Executor.Current
import DataMapper.Proofs.System.Privacy
/-!
# Readers of one select

Runs in which all sessions run one select that a region caches, and meet boundaries as they please.
What every view of the region satisfies stays satisfied, as long as clearing, rolling back and
staging what the select is answered with keep it.
-/

namespace DataMapper

/-- The call runs the select of this id, if it runs any statement. -/
def SessionCall.Reads (id : String) : SessionCall → Prop
  | .selectOne statement _ | .selectList statement _ _ | .selectMap statement _ _ _
  | .selectCursor statement _ _ | .select statement _ _ _ => statement = id
  | .insert .. | .update .. | .delete .. => False
  | _ => True

/-- The call may end the unit of work of its session. -/
def SessionCall.Ends : SessionCall → Prop
  | .commit _ | .rollback _ | .close => True
  | _ => False

/-- The step opens a session that does not commit by itself, drops one, or is such a call. -/
def Step.Reads (autoCommit : Bool) (id : String) : Step → Prop
  | .openSession mode => mode.getD autoCommit = false
  | .dropSession _ => True
  | .call _ request => request.Reads id
  | _ => False

/-- The step may end the unit of work of this session, which stays open. -/
def Step.Ends (session : Nat) : Step → Prop
  | .call id request => id = session ∧ request.Ends
  | _ => False

namespace Session

variable {s : Session} {catalog : Catalog} {call : SessionCall} {request : ExecutorCall}

/-! ## Calls of readers -/

theorem eq_of_named {select : MappedStatement} {id : String}
    {ask : MappedStatement → ExecutorCall} (hfound : catalog.statement select.id = .ok select)
    (hid : id = select.id) (h : s.named catalog id ask = .ok request) : request = ask select := by
  obtain ⟨statement, hstatement, rfl⟩ := exists_of_named h
  rw [hid, hfound] at hstatement
  cases hstatement
  rfl

/-- A reader asks its executor for the select, or for nothing that names a statement. -/
theorem on_of_reads {select : MappedStatement} {r : RegionRef}
    (hfound : catalog.statement select.id = .ok select) (hcache : select.cache = some r)
    (hcall : call.Reads select.id) (hrequest : s.request catalog call = .ok request) :
    request.On [r] := by
  have hselect := MappedStatement.mem_of_cache hcache (List.mem_singleton_self r)
  cases call with
  | insert id parameter => exact hcall.elim
  | update id parameter => exact hcall.elim
  | delete id parameter => exact hcall.elim
  | commit force => rw [(eq_of_unsealed hrequest).2]; trivial
  | rollback force => rw [(eq_of_unsealed hrequest).2]; trivial
  | flushStatements => rw [(eq_of_unsealed hrequest).2]; trivial
  | close => rw [(eq_of_unsealed hrequest).2]; trivial
  | clearCache => rw [(eq_of_unsealed hrequest).2]; trivial
  | _ =>
    rw [eq_of_named hfound hcall hrequest]
    exact hselect

theorem query_of_reads {select statement : MappedStatement} {parameter : Value}
    {bounds : RowBounds} {handler : Option Handler}
    (hfound : catalog.statement select.id = .ok select) (hcall : call.Reads select.id)
    (hrequest : s.request catalog call = .ok (.query statement parameter bounds handler)) :
    statement = select := by
  cases call with
  | insert id parameter => exact hcall.elim
  | update id parameter => exact hcall.elim
  | delete id parameter => exact hcall.elim
  | commit force => cases (eq_of_unsealed hrequest).2
  | rollback force => cases (eq_of_unsealed hrequest).2
  | flushStatements => cases (eq_of_unsealed hrequest).2
  | close => cases (eq_of_unsealed hrequest).2
  | clearCache => cases (eq_of_unsealed hrequest).2
  | selectCursor id parameter bounds => cases eq_of_named hfound hcall hrequest
  | _ =>
    cases eq_of_named hfound hcall hrequest
    rfl

theorem ends_of_request (hrequest : s.request catalog call = .ok request) (h : request.Ends) :
    call.Ends := by
  cases call with
  | commit force => trivial
  | rollback force => trivial
  | close => trivial
  | flushStatements =>
    obtain ⟨_, rfl⟩ := eq_of_unsealed hrequest
    exact h
  | clearCache =>
    obtain ⟨_, rfl⟩ := eq_of_unsealed hrequest
    exact h
  | _ =>
    obtain ⟨statement, _, rfl⟩ := exists_of_named hrequest
    exact h

/-- A call within a unit of work leaves a session as written as it was, unless it writes. -/
theorem dirty_perform {id : String} (hcall : call.Reads id) (hends : ¬ call.Ends)
    (s : Session) (catalog : Catalog) (shared : Shared) :
    (s.perform catalog shared call).2.1.dirty = s.dirty := by
  rw [perform_eq]
  cases s.request catalog call with
  | error e => rfl
  | ok request =>
    cases call with
    | insert id parameter => exact hcall.elim
    | update id parameter => exact hcall.elim
    | delete id parameter => exact hcall.elim
    | commit force => exact absurd trivial hends
    | rollback force => exact absurd trivial hends
    | close => exact absurd trivial hends
    | _ => rfl

/-- What a call of a reader leaves behind. -/
structure Kept (r : RegionRef) (environment : String) (V : Staged → Prop) (s : Session)
    (shared : Shared) (p : Result SessionReply) : Prop where
  executor : p.2.1.executor.Holds [r] environment V
  autoCommit : p.2.1.autoCommit = s.autoCommit
  memory : p.2.2.regions.InMemory r
  source : p.2.2.source.SameAnswers shared.source

theorem kept_perform {c : Configuration} {r : RegionRef} {select : MappedStatement}
    {V : Staged → Prop} {shared : Shared} (hcaches : c.Caches r select)
    (hx : s.executor.Holds [r] c.settings.environmentId V) (hmemory : shared.regions.InMemory r)
    (hcall : call.Reads select.id)
    (hstable : Staged.Stable select c.settings.environmentId shared.source V)
    (hreset : call.Ends → ∀ v, V v → V v.reset) :
    Kept r c.settings.environmentId V s shared (s.perform c.toCatalog shared call) := by
  rw [perform_eq]
  cases hrequest : s.request c.toCatalog call with
  | error e => exact ⟨hx, rfl, hmemory, .refl shared.source⟩
  | ok request =>
    have hput : ∀ statement parameter bounds key rows,
        request = .query statement parameter bounds none →
        statement.cache.isSome = true → statement.useCache = true →
        CacheKey.forStatement statement parameter bounds c.settings.environmentId = .ok key →
        (s.executor.connection.select shared.source statement parameter bounds).1 = .ok rows →
        ∀ v, V v → V (v.put key rows) := by
      intro statement parameter bounds key rows hquery _ _ hkey hselect
      subst hquery
      obtain rfl := query_of_reads hcaches.found hcall hrequest
      rw [Connection.eq_slice_of_select hselect]
      exact hstable.put parameter bounds key hkey
    have hkept := hx.perform (separate_singleton r)
      (List.forall_mem_singleton.2 hmemory)
      (on_of_reads hcaches.found hcaches.cache hcall hrequest) hstable.clear
      (fun h => hreset (ends_of_request hrequest h)) hput
    exact ⟨hkept.executor, rfl, hkept.memory r (List.mem_singleton_self r), hkept.source⟩

theorem kept_drop {environment : String} {r : RegionRef} {V : Staged → Prop} {shared : Shared}
    (hx : s.executor.Holds [r] environment V) (hmemory : shared.regions.InMemory r) :
    (s.drop shared).regions.InMemory r ∧ (s.drop shared).source.SameAnswers shared.source := by
  unfold drop
  split_ifs
  · exact ⟨hmemory, .refl shared.source⟩
  · have hon : (ExecutorCall.close (s.boundaryRequired false)).On [r] := trivial
    have hkept := (hx.imp fun _ _ => trivial).perform (V := fun _ => True)
      (separate_singleton r) (List.forall_mem_singleton.2 hmemory) hon
      (fun _ _ => trivial) (fun _ _ _ => trivial) fun _ _ _ _ _ _ _ _ _ _ _ _ => trivial
    exact ⟨hkept.memory r (List.mem_singleton_self r), hkept.source⟩

/-- A session that does not commit by itself, is numbered below the next one to be opened, and
caches in the region through a view with the property. -/
structure Reader (c : Configuration) (r : RegionRef) (V : Staged → Prop) (next id : Nat)
    (s : Session) : Prop where
  lt_next : id < next
  manual : s.autoCommit = false
  executor : s.executor.Holds [r] c.settings.environmentId V

end Session

namespace System

variable {s : System} {c : Configuration} {r : RegionRef} {select : MappedStatement}
  {V W : Nat → Staged → Prop}

/-! ## Steps of readers -/

/-- All sessions are readers, each with the property of its number. -/
structure Tracks (c : Configuration) (r : RegionRef) (V : Nat → Staged → Prop) (s : System) :
    Prop where
  configuration : s.configuration = c
  memory : s.shared.regions.InMemory r
  sessions : ∀ id session, s.sessions.get? id = some session →
    Session.Reader c r (V id) s.opened id session

theorem Tracks.imp (h : s.Tracks c r V) (himp : ∀ id v, V id v → W id v) : s.Tracks c r W := by
  refine ⟨h.configuration, h.memory, fun id session hsession => ?_⟩
  obtain ⟨hlt, hmanual, hexecutor⟩ := h.sessions id session hsession
  exact ⟨hlt, hmanual, hexecutor.imp (himp id)⟩

theorem Tracks.openSession (h : s.Tracks c r V) (henabled : c.settings.cacheEnabled = true)
    {mode : Option Bool} (hmode : mode.getD c.settings.defaultAutoCommit = false)
    (hfresh : V s.opened { region := r }) :
    (s.openSession mode).2.Tracks c r V ∧
      (s.openSession mode).2.shared.source.SameAnswers s.shared.source := by
  unfold System.openSession
  dsimp only
  split_ifs
  · exact ⟨h, .refl s.shared.source⟩
  · have hexecutor : (newExecutor c.settings).Holds [r] c.settings.environmentId (V s.opened) := by
      unfold newExecutor
      rw [henabled]
      refine ⟨UnitOfWork.within_empty [r], fun r' hr' => ?_, rfl⟩
      rw [List.mem_singleton.1 hr']
      exact hfresh
    refine ⟨⟨h.configuration, h.memory, Table.forall_insert ?_ ?_⟩, rfl, rfl, rfl⟩
    · rw [h.configuration]
      exact ⟨Nat.lt_succ_self s.opened, hmode, hexecutor⟩
    · intro id session hsession
      obtain ⟨hlt, hmanual, hholds⟩ := h.sessions id session hsession
      exact ⟨Nat.lt_succ_of_lt hlt, hmanual, hholds⟩

theorem Tracks.dropSession (h : s.Tracks c r V) (id : Nat) :
    (s.dropSession id).2.Tracks c r V ∧
      (s.dropSession id).2.shared.source.SameAnswers s.shared.source := by
  unfold System.dropSession
  cases hsession : s.sessions.get? id with
  | none => exact ⟨h, .refl s.shared.source⟩
  | some session =>
    have hreader := h.sessions id session hsession
    obtain ⟨hmemory, hsource⟩ := session.kept_drop hreader.executor h.memory
    exact ⟨⟨h.configuration, hmemory, Table.forall_erase h.sessions⟩, hsource⟩

theorem Tracks.call (h : s.Tracks c r V) (hcaches : c.Caches r select) {id : Nat}
    {call : SessionCall} (hcall : call.Reads select.id)
    (hstable : ∀ id, Staged.Stable select c.settings.environmentId s.shared.source (V id))
    (hreset : call.Ends → ∀ v, V id v → V id v.reset) :
    (s.call id call).2.Tracks c r V ∧
      (s.call id call).2.shared.source.SameAnswers s.shared.source := by
  unfold System.call
  cases hsession : s.sessions.get? id with
  | none => exact ⟨h, .refl s.shared.source⟩
  | some session =>
    obtain ⟨hlt, hmanual, hholds⟩ := h.sessions id session hsession
    obtain ⟨hexecutor, hmode, hmemory, hsource⟩ :=
      session.kept_perform hcaches hholds h.memory hcall (hstable id) hreset
    rw [h.configuration]
    exact ⟨⟨rfl, hmemory,
      Table.forall_insert ⟨hlt, hmode.trans hmanual, hexecutor⟩ h.sessions⟩, hsource⟩

theorem Tracks.step (h : s.Tracks c r V) (hcaches : c.Caches r select) {step : Step}
    (hstep : step.Reads c.settings.defaultAutoCommit select.id)
    (hstable : ∀ id, Staged.Stable select c.settings.environmentId s.shared.source (V id))
    (hreset : ∀ id, step.Ends id → ∀ v, V id v → V id v.reset)
    (hfresh : V s.opened { region := r }) :
    (s.step step).2.Tracks c r V ∧
      (s.step step).2.shared.source.SameAnswers s.shared.source := by
  cases step with
  | openSession mode => exact h.openSession hcaches.enabled hstep hfresh
  | dropSession id => exact h.dropSession id
  | call id call => exact h.call hcaches hstep hstable fun hends => hreset id ⟨rfl, hends⟩
  | setRows statement rows => exact hstep.elim
  | setAffected statement n => exact hstep.elim
  | fail point => exact hstep.elim
  | heal point => exact hstep.elim

theorem opened_step (s : System) (step : Step) : s.opened ≤ (s.step step).2.opened := by
  cases step with
  | openSession mode =>
    unfold System.step System.openSession
    dsimp only
    split_ifs
    · exact Nat.le_refl _
    · exact Nat.le_succ _
  | dropSession id =>
    unfold System.step System.dropSession
    dsimp only
    cases s.sessions.get? id with
    | none => exact Nat.le_refl _
    | some session => exact Nat.le_refl _
  | call id call =>
    unfold System.step System.call
    dsimp only
    cases s.sessions.get? id with
    | none => exact Nat.le_refl _
    | some session => exact Nat.le_refl _
  | setRows statement rows => exact Nat.le_refl _
  | setAffected statement n => exact Nat.le_refl _
  | fail point => exact Nat.le_refl _
  | heal point => exact Nat.le_refl _

theorem opened_run (s : System) (steps : List Step) : s.opened ≤ (s.run steps).2.opened := by
  induction steps generalizing s with
  | nil => exact Nat.le_refl _
  | cons step rest ih => exact Nat.le_trans (s.opened_step step) (ih (s.step step).2)

/-- Sessions that read a select through views with properties that reading keeps. -/
structure Reading (c : Configuration) (r : RegionRef) (select : MappedStatement)
    (V : Nat → Staged → Prop) (s : System) : Prop where
  tracks : s.Tracks c r V
  caches : c.Caches r select
  stable : ∀ id, Staged.Stable select c.settings.environmentId s.shared.source (V id)
  fresh : ∀ id, s.opened ≤ id → V id { region := r }

theorem Reading.step (h : s.Reading c r select V) {step : Step}
    (hstep : step.Reads c.settings.defaultAutoCommit select.id)
    (hreset : ∀ id, step.Ends id → ∀ v, V id v → V id v.reset) :
    (s.step step).2.Reading c r select V ∧
      (s.step step).2.shared.source.SameAnswers s.shared.source := by
  obtain ⟨htracks, hsource⟩ :=
    h.tracks.step h.caches hstep h.stable hreset (h.fresh s.opened (Nat.le_refl _))
  exact ⟨⟨htracks, h.caches, fun id => (h.stable id).of_sameAnswers hsource,
    fun id hid => h.fresh id (Nat.le_trans (s.opened_step step) hid)⟩, hsource⟩

theorem Reading.run (h : s.Reading c r select V) {steps : List Step}
    (hsteps : ∀ step ∈ steps, step.Reads c.settings.defaultAutoCommit select.id)
    (hreset : ∀ step ∈ steps, ∀ id, step.Ends id → ∀ v, V id v → V id v.reset) :
    (s.run steps).2.Reading c r select V ∧
      (s.run steps).2.shared.source.SameAnswers s.shared.source := by
  induction steps generalizing s with
  | nil => exact ⟨h, .refl s.shared.source⟩
  | cons step rest ih =>
    obtain ⟨hfirst, hsource⟩ := h.step (hsteps step List.mem_cons_self)
      (hreset step List.mem_cons_self)
    obtain ⟨hlast, hsource'⟩ := ih hfirst
      (fun step' hstep' => hsteps step' (List.mem_cons_of_mem step hstep'))
      fun step' hstep' => hreset step' (List.mem_cons_of_mem step hstep')
    exact ⟨hlast, hsource'.trans hsource⟩

/-! ## A session that has written -/

/-- The session of this number has been opened, and counts as written as long as it lasts. -/
structure Wrote (b : Nat) (s : System) : Prop where
  lt_opened : b < s.opened
  dirty : ∀ session, s.sessions.get? b = some session → session.dirty = true

/-- Reading within its unit of work leaves the session as written as it was. -/
theorem Wrote.step {b : Nat} (h : s.Wrote b) {step : Step} {autoCommit : Bool} {id : String}
    (hstep : step.Reads autoCommit id) (hends : ¬ step.Ends b) : (s.step step).2.Wrote b := by
  refine ⟨Nat.lt_of_lt_of_le h.lt_opened (s.opened_step step), ?_⟩
  cases step with
  | openSession mode =>
    have hne : b ≠ s.opened := Nat.ne_of_lt h.lt_opened
    unfold System.step System.openSession
    dsimp only
    split_ifs
    · exact h.dirty
    · dsimp only
      rw [Table.get?_insert_of_ne _ _ hne]
      exact h.dirty
  | dropSession id' =>
    unfold System.step System.dropSession
    dsimp only
    cases hsession : s.sessions.get? id' with
    | none => exact h.dirty
    | some session =>
      dsimp only
      rw [Table.get?_erase]
      split_ifs
      · exact fun _ hnone => nomatch hnone
      · exact h.dirty
  | call id' call =>
    unfold System.step System.call
    dsimp only
    cases hsession : s.sessions.get? id' with
    | none => exact h.dirty
    | some session =>
      dsimp only
      rw [Table.get?_insert]
      split_ifs with hid
      · subst hid
        intro session' hsession'
        cases hsession'
        rw [session.dirty_perform hstep fun hcall => hends ⟨rfl, hcall⟩]
        exact h.dirty session hsession
      · exact h.dirty
  | setRows statement rows => exact hstep.elim
  | setAffected statement n => exact hstep.elim
  | fail point => exact hstep.elim
  | heal point => exact hstep.elim

theorem Wrote.run {b : Nat} (h : s.Wrote b) {steps : List Step} {autoCommit : Bool} {id : String}
    (hsteps : ∀ step ∈ steps, step.Reads autoCommit id)
    (hends : ∀ step ∈ steps, ¬ step.Ends b) : (s.run steps).2.Wrote b := by
  induction steps generalizing s with
  | nil => exact h
  | cons step rest ih =>
    exact ih (h.step (hsteps step List.mem_cons_self) (hends step List.mem_cons_self))
      (fun step' hstep' => hsteps step' (List.mem_cons_of_mem step hstep'))
      fun step' hstep' => hends step' (List.mem_cons_of_mem step hstep')

/-! ## What reaches the region -/

/-- The session has staged these rows for the region. -/
def Stages (s : System) (id : Nat) (r : RegionRef) (key : CacheKey) (rows : Rows) : Prop :=
  ∃ session, s.sessions.get? id = some session ∧
    (session.executor.work.viewOf r).staged.get? key = some rows

theorem Tracks.all_stages (h : s.Tracks c r V) :
    s.Tracks c r fun id => Staged.All (s.Stages id r) := by
  refine ⟨h.configuration, h.memory, fun id session hsession => ?_⟩
  have hreader := h.sessions id session hsession
  refine ⟨hreader.lt_next, hreader.manual, ?_⟩
  cases hexecutor : session.executor with
  | direct c => exact nomatch hexecutor ▸ hreader.executor
  | caching work delegate =>
    obtain ⟨hwork, _, henvironment⟩ := hexecutor ▸ hreader.executor
    refine ⟨hwork, fun r' hr' key rows hrows => ⟨session, hsession, ?_⟩, henvironment⟩
    rw [hexecutor, ← List.mem_singleton.1 hr']
    exact hrows

/-- A step that publishes makes the contents of the region what its session saw of it. -/
theorem Tracks.contents_of_publishes (h : s.Tracks c r V) {step : Step}
    (hstep : s.Publishes step) :
    ∃ id session, step.session? = some id ∧ s.sessions.get? id = some session ∧
      (s.step step).2.shared.regions.contents r =
        session.executor.work.overlay r (s.shared.regions.contents r) := by
  have hmemory : ∀ r' ∈ [r], s.shared.regions.InMemory r' := List.forall_mem_singleton.2 h.memory
  have hperform : ∀ id session, s.sessions.get? id = some session → ∀ request : ExecutorCall,
      request.Publishes session.executor s.shared.source →
      (session.executor.perform s.shared request).2.2.regions.contents r =
        session.executor.work.overlay r (s.shared.regions.contents r) := by
    intro id session hsession request hrequest
    have hexecutor := (h.sessions id session hsession).executor
    generalize session.executor = x at hexecutor hrequest ⊢
    obtain ⟨hwork, _, _⟩ := hexecutor
    exact Executor.contents_perform_of_publishes (separate_singleton r) hwork hmemory hrequest r
      (List.mem_singleton_self r)
  cases step with
  | dropSession id =>
    unfold Publishes at hstep
    unfold System.step System.dropSession
    dsimp only at hstep ⊢
    cases hsession : s.sessions.get? id with
    | none => rw [hsession] at hstep; exact hstep.elim
    | some session =>
      rw [hsession] at hstep
      obtain ⟨hopen, hrequired⟩ : session.PublishesAtEnd := hstep
      refine ⟨id, session, rfl, hsession, ?_⟩
      dsimp only
      unfold Session.drop
      rw [hopen, hrequired]
      exact hperform id session hsession (.close false) rfl
  | call id call =>
    unfold Publishes at hstep
    unfold System.step System.call
    dsimp only at hstep ⊢
    cases hsession : s.sessions.get? id with
    | none => rw [hsession] at hstep; exact hstep.elim
    | some session =>
      rw [hsession] at hstep
      obtain ⟨request, hrequest, hpublishes⟩ :=
        session.exists_request_of_publishes hstep s.configuration.toCatalog
      refine ⟨id, session, rfl, hsession, ?_⟩
      dsimp only
      rw [session.perform_eq, hrequest]
      exact hperform id session hsession request hpublishes
  | _ => exact hstep.elim

theorem Tracks.entry_of_publishes (h : s.Tracks c r V) {step : Step} (hstep : s.Publishes step)
    {id : Nat} (hid : step.session? = some id) {key : CacheKey} {rows : Rows}
    (hstages : s.Stages id r key rows) :
    (s.step step).2.shared.regions.contents r key = some rows := by
  obtain ⟨session, hsession, hrows⟩ := hstages
  obtain ⟨id', session', hid', hsession', hoverlay⟩ := h.contents_of_publishes hstep
  obtain rfl : id = id' := Option.some.inj (hid.symm.trans hid')
  obtain rfl : session = session' := Option.some.inj (hsession.symm.trans hsession')
  rw [hoverlay]
  unfold UnitOfWork.overlay
  rw [Staged.overlay_apply, hrows]
  rfl

/-- The contents of the region keep a property that all rows have which a step publishes. -/
theorem Tracks.contents_all_step (h : s.Tracks c r V) {P : CacheKey → Rows → Prop}
    (hcontents : Contents.All P (s.shared.regions.contents r)) {step : Step}
    (hstep : s.Publishes step → ∀ id, step.session? = some id →
      ∀ key rows, s.Stages id r key rows → P key rows) :
    Contents.All P ((s.step step).2.shared.regions.contents r) := by
  by_cases hpublishes : s.Publishes step
  · obtain ⟨id, session, hid, hsession, hoverlay⟩ := h.contents_of_publishes hpublishes
    have hstaged : Staged.All P (session.executor.work.viewOf r) :=
      fun key rows hrows => hstep hpublishes id hid key rows ⟨session, hsession, hrows⟩
    rw [hoverlay]
    exact hstaged.overlay fun _ => hcontents
  · rw [(sameEntries_step hpublishes).contents r]
    exact hcontents

end System

end DataMapper
