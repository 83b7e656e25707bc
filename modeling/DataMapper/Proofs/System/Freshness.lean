import DataMapper.Proofs.System.Readers
/-!
# Freshness after a committed write

A session writes, a select has new rows from then on, and the session commits. Sessions opened later
are served the new rows, unless a session that has staged older ones since before the write
publishes them after the commit. No entry tells how old its rows are, so that nothing prevents this.
-/

namespace DataMapper

open CacheKey (UpToDate)

variable {c : Configuration} {r : RegionRef} {select : MappedStatement} {environment : String}
  {new : Rows}

/-! ## Answers of up-to-date sessions -/

/-- Whether a step was answered with success. -/
def Reply.succeeded : Reply → Bool
  | .answered (.ok _) => true
  | _ => false

/-- The rows that a step was answered with. -/
def Reply.rows? : Reply → Option Rows
  | .answered (.ok (.rows rows)) => some rows
  | _ => none

namespace System

/-- The step publishes rows that are not those of the select any more. -/
def PublishesOutdated (c : Configuration) (r : RegionRef) (select : MappedStatement) (new : Rows)
    (s : System) (step : Step) : Prop :=
  s.Publishes step ∧ ∃ id key rows, step.session? = some id ∧ s.Stages id r key rows ∧
    ¬ UpToDate select c.settings.environmentId new key rows

/-- The session is answered with these rows of the select, whichever call asks for it. -/
structure Serves (select : MappedStatement) (new : Rows) (s : System) (id : Nat)
    (session : Session) : Prop where
  only : ∀ call parameter bounds reply,
    session.request s.configuration.toCatalog call = .ok (.query select parameter bounds none) →
    (s.step (.call id call)).1 = .answered (.ok reply) →
      call.answer (.rows (bounds.slice new)) = .ok reply
  query : ∀ call parameter bounds handler key,
    session.request s.configuration.toCatalog call =
      .ok (.query select parameter bounds handler) →
    session.executor.isClosed = false →
    session.executor.keyFor select parameter bounds = .ok key →
      let delivered := Executor.deliver handler (bounds.slice new) s.shared.journal
      (s.step (.call id call)).1 = .answered ((delivered.1.map .rows).bind call.answer) ∧
        (s.step (.call id call)).2.shared.journal = delivered.2
  cursor : ∀ call parameter bounds,
    session.request s.configuration.toCatalog call = .ok (.queryCursor select parameter bounds) →
    session.executor.isClosed = false →
      (s.step (.call id call)).1 = .answered (call.answer (.rows (bounds.slice new)))

variable {s : System} {V W : Nat → Staged → Prop}

/-- What a call makes of a session that is there. -/
theorem step_call {id : Nat} {session : Session} (hsession : s.sessions.get? id = some session)
    (call : SessionCall) :
    (s.step (.call id call)).1 =
        .answered (session.perform s.configuration.toCatalog s.shared call).1 ∧
      (s.step (.call id call)).2.shared =
        (session.perform s.configuration.toCatalog s.shared call).2.2 := by
  unfold System.step System.call
  dsimp only
  rw [hsession]
  exact ⟨rfl, rfl⟩

theorem serves_of_current (hcaches : c.Caches r select)
    (hanswer : ∀ parameter, s.shared.source.answer select.id parameter = new)
    (hmemory : s.shared.regions.InMemory r)
    (hquery : s.shared.source.fails .query = false) {id : Nat} {session : Session}
    (hsession : s.sessions.get? id = some session)
    (h : session.executor.Current r select environment new s.shared.regions) :
    s.Serves select new id session := by
  refine ⟨?_, ?_, ?_⟩
  · intro call parameter bounds reply hrequest hreply
    rw [(step_call hsession call).1, session.perform_eq, hrequest] at hreply
    have houtcome := Reply.answered.inj hreply
    unfold Session.served Executor.perform at houtcome
    dsimp only at houtcome
    cases hrows : (session.executor.query select parameter bounds none s.shared).1 with
    | error e =>
      rw [hrows] at houtcome
      cases houtcome
    | ok rows =>
      rw [hrows, h.eq_slice hcaches hanswer hmemory hrows] at houtcome
      exact houtcome
  · intro call parameter bounds handler key hrequest hopen hkey delivered
    obtain ⟨hrows, hjournal⟩ :=
      h.query hcaches hanswer hmemory hopen hquery hkey handler
    rw [(step_call hsession call).1, (step_call hsession call).2, session.perform_eq, hrequest]
    unfold Session.served Executor.perform
    dsimp only
    rw [hrows, hjournal]
    exact ⟨rfl, rfl⟩
  · intro call parameter bounds hrequest hopen
    have hrows := h.queryCursor hcaches hanswer hopen hquery parameter bounds
    rw [(step_call hsession call).1, session.perform_eq, hrequest]
    unfold Session.served Executor.perform Executor.reply
    dsimp only
    rw [hrows]
    rfl

/-! ## The write and its commit -/

/-- A call that succeeded was served. -/
theorem exists_of_succeeded {id : Nat} {call : SessionCall}
    (h : (s.step (.call id call)).1.succeeded = true) :
    ∃ session request, s.sessions.get? id = some session ∧
      session.request s.configuration.toCatalog call = .ok request ∧
      ∃ reply, (session.executor.perform s.shared request).1 = .ok reply := by
  cases hsession : s.sessions.get? id with
  | none =>
    unfold System.step System.call at h
    dsimp only at h
    rw [hsession] at h
    cases h
  | some session =>
    rw [(step_call hsession call).1, session.perform_eq] at h
    cases hrequest : session.request s.configuration.toCatalog call with
    | error e =>
      rw [hrequest] at h
      cases h
    | ok request =>
      refine ⟨session, request, rfl, hrequest, ?_⟩
      rw [hrequest] at h
      unfold Session.served at h
      dsimp only at h
      cases houtcome : (session.executor.perform s.shared request).1 with
      | error e =>
        rw [houtcome] at h
        cases h
      | ok reply => exact ⟨reply, rfl⟩

/-- A flushing update marks the region to be cleared, and its session counts as written. -/
theorem Tracks.flush (h : s.Tracks c r V) {write : MappedStatement}
    (hfound : c.toCatalog.statement write.id = .ok write) (hcache : write.cache = some r)
    (hflushes : write.flushCacheRequired = true) {b : Nat} {parameter : Value}
    (hok : (s.step (.call b (.update write.id parameter))).1.succeeded = true)
    (hothers : ∀ id, id ≠ b → ∀ v, V id v → W id v) (hown : ∀ v, V b v → W b v.clear) :
    let after := (s.step (.call b (.update write.id parameter))).2
    after.Tracks c r W ∧ after.Wrote b ∧ after.shared.source.SameAnswers s.shared.source ∧
      after.opened = s.opened := by
  obtain ⟨session, request, hsession, hrequest, _⟩ := exists_of_succeeded hok
  obtain ⟨hlt, hmanual, hholds⟩ := h.sessions b session hsession
  rw [h.configuration] at hrequest
  have hupdate : request = .update write parameter :=
    session.eq_of_named hfound rfl hrequest
  obtain ⟨hexecutor, hmemory, hsource⟩ := hholds.flush
    (List.forall_mem_singleton.2 h.memory) hcache hflushes parameter hown
  intro after
  have hafter : after = { s with
      shared := (session.executor.perform s.shared (.update write parameter)).2.2
      sessions := s.sessions.insert b
        (session.after (.update write.id parameter)
          (session.executor.perform s.shared (.update write parameter)).1
          (session.executor.perform s.shared (.update write parameter)).2.1) } := by
    unfold after System.step System.call
    dsimp only
    rw [hsession, h.configuration]
    dsimp only
    rw [session.perform_eq, hrequest, hupdate]
    rfl
  rw [hafter]
  refine ⟨⟨h.configuration, hmemory r (List.mem_singleton_self r), fun id other hother => ?_⟩, ?_,
    hsource, rfl⟩
  · dsimp only at hother ⊢
    rw [Table.get?_insert] at hother
    split_ifs at hother with hid
    · cases hother
      exact ⟨hid ▸ hlt, hmanual, hid ▸ hexecutor⟩
    · obtain ⟨hlt', hmanual', hholds'⟩ := h.sessions id other hother
      exact ⟨hlt', hmanual', hholds'.imp (hothers id hid)⟩
  · refine ⟨hlt, fun other hother => ?_⟩
    dsimp only at hother
    rw [Table.get?_insert_self] at hother
    cases hother
    rfl

/-- A commit that succeeds after a write publishes. -/
theorem Tracks.publishes_of_commit (h : s.Tracks c r V) {b : Nat} (hwrote : s.Wrote b)
    {force : Bool} (hok : (s.step (.call b (.commit force))).1.succeeded = true) :
    s.Publishes (.call b (.commit force)) := by
  obtain ⟨session, request, hsession, hrequest, reply, hreply⟩ := exists_of_succeeded hok
  obtain ⟨hpoisoned, rfl⟩ := Session.eq_of_unsealed hrequest
  obtain ⟨_, hmanual, hholds⟩ := h.sessions b session hsession
  have hrequired : session.boundaryRequired force = true := by
    unfold Session.boundaryRequired
    rw [hmanual, hwrote.dirty session hsession]
    exact Bool.or_true force
  unfold Publishes
  dsimp only
  rw [hsession]
  refine ⟨hpoisoned, ?_⟩
  rw [hrequired] at hreply ⊢
  exact hholds.commit_made hreply

/-- As long as no step publishes outdated rows, the region has no outdated entry. -/
theorem Reading.contents_upToDate (h : s.Reading c r select V) {steps : List Step}
    (hsteps : ∀ step ∈ steps, step.Reads c.settings.defaultAutoCommit select.id)
    (hreset : ∀ id v, V id v → V id v.reset)
    (hcontents : Contents.All (UpToDate select c.settings.environmentId new)
      (s.shared.regions.contents r))
    (halways : s.Always (fun s step => ¬ s.PublishesOutdated c r select new step) steps) :
    Contents.All (UpToDate select c.settings.environmentId new)
      ((s.run steps).2.shared.regions.contents r) := by
  induction steps generalizing s with
  | nil => exact hcontents
  | cons step rest ih =>
    obtain ⟨hnot, hrest⟩ := halways
    obtain ⟨hfirst, _⟩ := h.step (hsteps step List.mem_cons_self) fun id _ => hreset id
    refine ih hfirst (fun step' hstep' => hsteps step' (List.mem_cons_of_mem step hstep')) ?_ hrest
    refine h.tracks.contents_all_step hcontents fun hpublishes id hid key rows hstages => ?_
    by_cases hrows : UpToDate select c.settings.environmentId new key rows
    · exact hrows
    · exact absurd ⟨hpublishes, id, key, rows, hid, hstages, hrows⟩ hnot

end System

/-- A write of one session and the commit of it: what is written, the rows that the select has from
then on, and what all sessions do before the write and between the two. -/
structure CommittedWrite where
  writer : Nat
  write : MappedStatement
  parameter : Value
  select : MappedStatement
  rows : Rows
  force : Bool
  before : List Step
  between : List Step

namespace CommittedWrite

variable (w : CommittedWrite) (c : Configuration) (r : RegionRef) (s : System)

def update : Step :=
  .call w.writer (.update w.write.id w.parameter)

def replace : Step :=
  .setRows w.select.id w.rows

def commit : Step :=
  .call w.writer (.commit w.force)

/-- The system that the write meets. -/
def atWrite : System :=
  (s.run w.before).2

/-- The system once the write is done. -/
def written : System :=
  ((w.atWrite s).run [w.update, w.replace]).2

/-- The system that the commit meets. -/
def atCommit : System :=
  ((w.written s).run w.between).2

/-- The system once the commit is done. -/
def committed : System :=
  ((w.atCommit s).step w.commit).2

/-- Write and commit succeed in a run of readers, which starts without sessions, and the writer
stays within its unit of work between them. -/
structure Occurs : Prop where
  configuration : s.configuration = c
  sessions : s.sessions = .empty
  memory : s.shared.regions.InMemory r
  healthy : s.shared.source.failing = []
  caches : c.Caches r w.select
  found : c.toCatalog.statement w.write.id = .ok w.write
  cache : w.write.cache = some r
  flushes : w.write.flushCacheRequired = true
  length : w.rows.length ≤ CacheKey.maxBound
  before : ∀ step ∈ w.before, step.Reads c.settings.defaultAutoCommit w.select.id
  between : ∀ step ∈ w.between,
    step.Reads c.settings.defaultAutoCommit w.select.id ∧ ¬ step.Ends w.writer
  updated : ((w.atWrite s).step w.update).1.succeeded = true
  committed : ((w.atCommit s).step w.commit).1.succeeded = true

/-- The rows are up to date, or the session has staged them since before the write. -/
def Known (id : Nat) (key : CacheKey) (rows : Rows) : Prop :=
  UpToDate w.select c.settings.environmentId w.rows key rows ∨ (w.atWrite s).Stages id r key rows

/-- What is known of a view until the commit: that of the writer will clear the region. -/
def Pending (id : Nat) (v : Staged) : Prop :=
  if id = w.writer then
    v.clearOnCommit = true ∧ v.All (UpToDate w.select c.settings.environmentId w.rows)
  else v.All (w.Known c r s id)

variable {w c r s}

/-- What the source answers to the select after the write. -/
theorem answer_eq {d : DataSource}
    (hd : d.SameAnswers (s.shared.source.setRows w.select.id w.rows)) (parameter : Value) :
    d.answer w.select.id parameter = w.rows :=
  (hd.answer w.select.id parameter).trans (s.shared.source.answer_setRows _ _ parameter)

theorem Pending.all_known {id : Nat} {v : Staged} (h : w.Pending c r s id v) :
    v.All (w.Known c r s id) := by
  unfold Pending at h
  split_ifs at h
  · exact fun key rows hrows => .inl (h.2 key rows hrows)
  · exact h

theorem stable_known (hlength : w.rows.length ≤ CacheKey.maxBound) {d : DataSource}
    (hanswer : ∀ parameter, d.answer w.select.id parameter = w.rows) (id : Nat) :
    Staged.Stable w.select c.settings.environmentId d (Staged.All (w.Known c r s id)) := by
  refine Staged.stable_all fun parameter bounds key hkey => .inl ?_
  rw [hanswer]
  exact CacheKey.upToDate_slice hlength hkey

theorem stable_pending (hlength : w.rows.length ≤ CacheKey.maxBound) {d : DataSource}
    (hanswer : ∀ parameter, d.answer w.select.id parameter = w.rows) (id : Nat) :
    Staged.Stable w.select c.settings.environmentId d (w.Pending c r s id) := by
  unfold Pending
  split_ifs
  · refine ⟨fun v _ => ⟨rfl, v.all_clear⟩, fun parameter bounds key hkey v hv => ⟨hv.1, ?_⟩⟩
    rw [hanswer]
    exact hv.2.put (CacheKey.upToDate_slice hlength hkey)
  · exact stable_known hlength hanswer id

namespace Occurs

variable (h : w.Occurs c r s)

include h

theorem reading_atWrite :
    (w.atWrite s).Reading c r w.select (fun _ _ => True) ∧
      (w.atWrite s).shared.source.SameAnswers s.shared.source := by
  have hstart : s.Reading c r w.select fun _ _ => True := by
    refine ⟨⟨h.configuration, h.memory, fun id session hsession => ?_⟩, h.caches,
      fun _ => ⟨fun _ _ => trivial, fun _ _ _ _ _ _ => trivial⟩, fun _ _ => trivial⟩
    rw [h.sessions, Table.get?_empty] at hsession
    cases hsession
  exact hstart.run h.before fun _ _ _ _ _ _ => trivial

theorem reading_written :
    (w.written s).Reading c r w.select (w.Pending c r s) ∧ (w.written s).Wrote w.writer ∧
      (w.written s).shared.source.SameAnswers (s.shared.source.setRows w.select.id w.rows) ∧
      (w.written s).opened = (w.atWrite s).opened := by
  obtain ⟨hreading, hsource⟩ := h.reading_atWrite
  have hothers : ∀ id, id ≠ w.writer → ∀ v : Staged,
      v.All ((w.atWrite s).Stages id r) → w.Pending c r s id v := by
    intro id hid v hv
    unfold Pending
    rw [if_neg hid]
    exact fun key rows hrows => .inr (hv key rows hrows)
  have hown : ∀ v : Staged, v.All ((w.atWrite s).Stages w.writer r) →
      w.Pending c r s w.writer v.clear := by
    intro v _
    unfold Pending
    rw [if_pos rfl]
    exact ⟨rfl, v.all_clear⟩
  obtain ⟨⟨hconfiguration, hmemory, hsessions⟩, hwrote, hanswers, hopened⟩ :=
    hreading.tracks.all_stages.flush h.found h.cache h.flushes h.updated hothers hown
  have hsource' : (w.written s).shared.source.SameAnswers
      (s.shared.source.setRows w.select.id w.rows) :=
    (hanswers.trans hsource).setRows w.select.id w.rows
  refine ⟨⟨⟨hconfiguration, hmemory, hsessions⟩, h.caches,
    stable_pending h.length (answer_eq hsource'), fun id hid => ?_⟩,
    ⟨hwrote.lt_opened, hwrote.dirty⟩, hsource', hopened⟩
  have hne : id ≠ w.writer := Nat.ne_of_gt (Nat.lt_of_lt_of_le hwrote.lt_opened hid)
  unfold Pending
  rw [if_neg hne]
  exact Staged.all_fresh r

theorem reading_atCommit :
    (w.atCommit s).Reading c r w.select (w.Pending c r s) ∧ (w.atCommit s).Wrote w.writer ∧
      (w.atCommit s).shared.source.SameAnswers (s.shared.source.setRows w.select.id w.rows) ∧
      (w.atWrite s).opened ≤ (w.atCommit s).opened := by
  obtain ⟨hreading, hwrote, hsource, hopened⟩ := h.reading_written
  have hreset : ∀ step ∈ w.between, ∀ id, step.Ends id →
      ∀ v, w.Pending c r s id v → w.Pending c r s id v.reset := by
    intro step hstep id hends v _
    have hne : id ≠ w.writer := fun hid => (h.between step hstep).2 (hid ▸ hends)
    unfold Pending
    rw [if_neg hne]
    exact v.all_reset
  obtain ⟨hlast, hsource'⟩ :=
    hreading.run (fun step hstep => (h.between step hstep).1) hreset
  exact ⟨hlast, hwrote.run (fun step hstep => (h.between step hstep).1)
    fun step hstep => (h.between step hstep).2, hsource'.trans hsource,
    hopened ▸ (w.written s).opened_run w.between⟩

/-- Right after the commit the region has no outdated entry. -/
theorem reading_committed :
    (w.committed s).Reading c r w.select (fun id => Staged.All (w.Known c r s id)) ∧
      Contents.All (UpToDate w.select c.settings.environmentId w.rows)
        ((w.committed s).shared.regions.contents r) ∧
      (w.committed s).shared.source.SameAnswers (s.shared.source.setRows w.select.id w.rows) ∧
      (w.atWrite s).opened ≤ (w.committed s).opened := by
  obtain ⟨hreading, hwrote, hsource, hopened⟩ := h.reading_atCommit
  have hopened' := (w.atCommit s).opened_step w.commit
  have hknown : (w.atCommit s).Reading c r w.select fun id => Staged.All (w.Known c r s id) :=
    ⟨hreading.tracks.imp fun _ _ => Pending.all_known, h.caches,
      stable_known h.length (answer_eq hsource), fun _ _ => Staged.all_fresh r⟩
  have hcommit : w.commit.Reads c.settings.defaultAutoCommit w.select.id := trivial
  obtain ⟨hlast, hsource'⟩ := hknown.step hcommit fun _ _ v _ => v.all_reset
  refine ⟨hlast, ?_, hsource'.trans hsource, Nat.le_trans hopened hopened'⟩
  have hpublishes := hreading.tracks.publishes_of_commit hwrote h.committed
  obtain ⟨id, session, hid, hsession, hoverlay⟩ := hreading.tracks.contents_of_publishes hpublishes
  obtain rfl : w.writer = id := Option.some.inj hid
  have hpending : w.Pending c r s w.writer (session.executor.work.viewOf r) :=
    (hreading.tracks.sessions w.writer session hsession).executor.view
  unfold Pending at hpending
  rw [if_pos rfl] at hpending
  -- The pending clear hides all that the region had before.
  have hcontents : (w.committed s).shared.regions.contents r =
      session.executor.work.overlay r ((w.atCommit s).shared.regions.contents r) := hoverlay
  rw [hcontents]
  exact hpending.2.overlay fun hclear => nomatch hclear.symm.trans hpending.1

theorem reading_after {after : List Step}
    (hafter : ∀ step ∈ after, step.Reads c.settings.defaultAutoCommit w.select.id) :
    ((w.committed s).run after).2.Reading c r w.select
        (fun id => Staged.All (w.Known c r s id)) ∧
      ((w.committed s).run after).2.shared.source.SameAnswers
        (s.shared.source.setRows w.select.id w.rows) := by
  obtain ⟨hreading, _, hsource, _⟩ := h.reading_committed
  obtain ⟨hlast, hsource'⟩ := hreading.run hafter fun _ _ _ _ v _ => v.all_reset
  exact ⟨hlast, hsource'.trans hsource⟩

/-- A session opened after the commit has staged nothing before the write. -/
theorem upToDate_of_known {id : Nat} (hid : (w.committed s).opened ≤ id) {key : CacheKey}
    {rows : Rows} (hknown : w.Known c r s id key rows) :
    UpToDate w.select c.settings.environmentId w.rows key rows := by
  obtain ⟨_, _, _, hopened⟩ := h.reading_committed
  rcases hknown with hrows | ⟨session, hsession, _⟩
  · exact hrows
  · have hlt := (h.reading_atWrite.1.tracks.sessions id session hsession).lt_next
    omega

end Occurs

end CommittedWrite

namespace System

/-- A fresh session is served the entry that the region has for a select. -/
theorem perform_newExecutor (hcaches : c.Caches r select)
    (hflush : select.flushCacheRequired = false) {s : Shared} (hmemory : s.regions.InMemory r)
    {parameter : Value} {bounds : RowBounds} {key : CacheKey} {rows : Rows}
    (hkey : CacheKey.forStatement select parameter bounds c.settings.environmentId = .ok key)
    (hentry : s.regions.contents r key = some rows) :
    ((newExecutor c.settings).perform s (.query select parameter bounds none)).1 =
      .ok (.rows rows) := by
  have hflushed : UnitOfWork.empty.flushedBy select = .empty := by
    unfold UnitOfWork.flushedBy
    rw [hcaches.cache, hflush]
    rfl
  let connection : Connection := { environment := c.settings.environmentId }
  have hkeyFor : (Executor.caching .empty (.direct connection)).keyFor select parameter bounds =
      .ok key := hkey
  obtain ⟨store, _, hquery⟩ := (UnitOfWork.within_empty [r]).queryWithKey_eq
    (separate_singleton r) hcaches.cache (List.mem_singleton_self r) hcaches.useCache
    hcaches.inputOnly hmemory connection parameter bounds key
  have hseen : UnitOfWork.empty.overlay r (s.regions.contents r) key = some rows := by
    unfold UnitOfWork.overlay
    rw [UnitOfWork.viewOf_empty, Staged.overlay_fresh]
    exact hentry
  unfold newExecutor Executor.perform
  rw [hcaches.enabled]
  dsimp only
  rw [if_pos rfl, Executor.query_of_key hkeyFor, hquery, hflushed, hseen]
  rfl

/-- A session that is opened for a select answers as its fresh executor does. -/
theorem replies_of_newExecutor {s : System} {select : MappedStatement}
    (hfound : s.configuration.toCatalog.statement select.id = .ok select)
    (hopening : s.shared.source.fails .opening = false) (parameter : Value) (bounds : RowBounds) :
    let source : DataSource := { s.shared.source with opened := s.shared.source.opened + 1 }
    (s.run [.openSession (some false),
        .call s.opened (.selectList select.id parameter bounds)]).1 =
      [.opened s.opened false,
        .answered (((newExecutor s.configuration.settings).perform { s.shared with source }
          (.query select parameter bounds none)).1.bind
            (SessionCall.selectList select.id parameter bounds).answer)] := by
  intro source
  let session : Session := { executor := newExecutor s.configuration.settings, autoCommit := false }
  have hopen : s.step (.openSession (some false)) = (.opened s.opened false, { s with
      shared := { s.shared with source }
      sessions := s.sessions.insert s.opened session
      opened := s.opened + 1 }) := by
    unfold System.step System.openSession
    dsimp only
    rw [hopening, if_neg Bool.false_ne_true]
    rfl
  have hrequest : session.request s.configuration.toCatalog
      (.selectList select.id parameter bounds) = .ok (.query select parameter bounds none) := by
    unfold Session.request Session.named
    dsimp only
    rw [hfound]
    rfl
  unfold System.run System.run System.run
  dsimp only
  rw [hopen, (step_call (Table.get?_insert_self _ _ session) _).1, Session.perform_eq, hrequest]
  rfl

theorem Reading.served_entry {s : System} {V : Nat → Staged → Prop}
    (h : s.Reading c r select V) (hopening : s.shared.source.fails .opening = false)
    (hflush : select.flushCacheRequired = false) {parameter : Value} {bounds : RowBounds}
    {key : CacheKey} {rows : Rows}
    (hkey : CacheKey.forStatement select parameter bounds c.settings.environmentId = .ok key)
    (hentry : s.shared.regions.contents r key = some rows) :
    (s.run [.openSession (some false),
        .call s.opened (.selectList select.id parameter bounds)]).1 =
      [.opened s.opened false, .answered (.ok (.rows rows))] := by
  have hconfiguration := h.tracks.configuration
  have hfound : s.configuration.toCatalog.statement select.id = .ok select :=
    hconfiguration ▸ h.caches.found
  have hreplies := replies_of_newExecutor hfound hopening parameter bounds
  have hperform := perform_newExecutor h.caches hflush
    (s := { s.shared with
      source := { s.shared.source with opened := s.shared.source.opened + 1 } })
    h.tracks.memory hkey hentry
  rw [hreplies, hconfiguration, hperform]
  rfl

/-- After a committed write, sessions opened later are served the new rows of the select, as long as
no session publishes rows that it has staged since before the write. As soon as one does, a session
opened next is served outdated rows, if the select does not flush the region itself. -/
theorem committed_write_is_seen_until_outdated_rows_are_published {w : CommittedWrite}
    {s : System} (h : w.Occurs c r s) {after : List Step}
    (hafter : ∀ step ∈ after, step.Reads c.settings.defaultAutoCommit w.select.id) :
    let last := ((w.committed s).run after).2
    ((w.committed s).Always (fun s step => ¬ s.PublishesOutdated c r w.select w.rows step) after →
      ∀ id session, (w.committed s).opened ≤ id → last.sessions.get? id = some session →
        last.Serves w.select w.rows id session) ∧
    (∀ id key rows, last.Stages id r key rows →
      UpToDate w.select c.settings.environmentId w.rows key rows ∨
        (w.atWrite s).Stages id r key rows) ∧
    (∀ step, step.Reads c.settings.defaultAutoCommit w.select.id →
      last.PublishesOutdated c r w.select w.rows step → w.select.flushCacheRequired = false →
      let next := (last.step step).2
      ∃ parameter bounds rows, rows ≠ bounds.slice w.rows ∧
        (next.run [.openSession (some false),
            .call next.opened (.selectList w.select.id parameter bounds)]).1 =
          [.opened next.opened false, .answered (.ok (.rows rows))]) := by
  intro last
  obtain ⟨hcommitted, hcontents, _, _⟩ := h.reading_committed
  obtain ⟨hlast, hsource⟩ := h.reading_after hafter
  have hfails : ∀ point, last.shared.source.fails point = false := by
    intro point
    rw [hsource.fails]
    unfold DataSource.fails DataSource.setRows
    dsimp only
    rw [h.healthy]
    rfl
  refine ⟨?_, ?_, ?_⟩
  · intro halways id session hid hsession
    have hfresh := hcommitted.contents_upToDate hafter (fun _ v _ => v.all_reset) hcontents halways
    have hexecutor := (hlast.tracks.sessions id session hsession).executor
    refine serves_of_current h.caches (CommittedWrite.answer_eq hsource) hlast.tracks.memory
      (hfails .query) hsession (hexecutor.current ?_ hfresh)
    exact fun v hv key rows hrows => h.upToDate_of_known hid (hv key rows hrows)
  · intro id key rows ⟨session, hsession, hrows⟩
    exact (hlast.tracks.sessions id session hsession).executor.view key rows hrows
  · intro step hstep ⟨hpublishes, id, key, rows, hid, hstages, houtdated⟩ hflush
    obtain ⟨hnext, hsource'⟩ := hlast.step hstep fun _ _ v _ => v.all_reset
    have hopening := (hsource'.fails .opening).trans (hfails .opening)
    have hentry := hlast.tracks.entry_of_publishes hpublishes hid hstages
    obtain ⟨parameter, bounds, hkey, hne⟩ := CacheKey.exists_of_not_upToDate houtdated
    exact ⟨parameter, bounds, rows, hne, hnext.served_entry hopening hflush hkey hentry⟩

/-! ## A session that stages rows before the write -/

/-- Session 0 stages the row 1, then session 1 writes and commits, and the row is 2. -/
def overtaken : CommittedWrite where
  writer := 1
  write := .flushingUpdate "touch" users
  parameter := .null
  select := .cachedSelect "find" users []
  rows := [.int 2]
  force := false
  before :=
    [.openSession (some false), .openSession (some false),
      .call 0 (.selectList "find" .null .all)]
  between := []

theorem occurs_overtaken :
    overtaken.Occurs (ofOneRegion [.int 1]).configuration users (ofOneRegion [.int 1]) where
  configuration := rfl
  sessions := rfl
  memory := RegionStore.inMemory_openMemory .empty "users"
  healthy := rfl
  caches := ⟨rfl, rfl, rfl, rfl, rfl⟩
  found := rfl
  cache := rfl
  flushes := rfl
  length := by decide
  before := List.forall_mem_cons.2
    ⟨rfl, List.forall_mem_cons.2 ⟨rfl, List.forall_mem_singleton.2 rfl⟩⟩
  between := fun _ hstep => nomatch hstep
  updated := by decide +kernel
  committed := by decide +kernel

/-- The first session closes after the commit, and the next one is answered with the row 1. -/
theorem outdated_row_after_commit :
    overtaken.Occurs (ofOneRegion [.int 1]).configuration users (ofOneRegion [.int 1]) ∧
      let committed := overtaken.committed (ofOneRegion [.int 1])
      let after : List Step := [.call 0 .close, .openSession (some false)]
      (∀ step ∈ after, step.Reads false overtaken.select.id) ∧
        committed.opened = 2 ∧
        ((committed.run after).2.step (.call 2 (.selectList "find" .null .all))).1.rows? =
          some [.int 1] ∧
        RowBounds.all.slice overtaken.rows = [.int 2] := by
  refine ⟨occurs_overtaken, ?_, ?_, ?_, ?_⟩
  · exact List.forall_mem_cons.2 ⟨trivial, List.forall_mem_singleton.2 rfl⟩
  · decide +kernel
  · decide +kernel
  · decide +kernel

/-- Until the session closes, a session opened after the commit is served the row 2. -/
theorem new_row_until_close :
    let committed := overtaken.committed (ofOneRegion [.int 1])
    let last := (committed.run [.openSession (some false)]).2
    (last.step (.call 2 (.selectList "find" .null .all))).1 =
        .answered (.ok (.rows [.int 2])) ∧
      ∃ parameter bounds rows, rows ≠ bounds.slice [.int 2] ∧
        ((last.step (.call 0 .close)).2.run [.openSession (some false),
            .call 3 (.selectList "find" parameter bounds)]).1 =
          [.opened 3 false, .answered (.ok (.rows rows))] := by
  intro committed last
  have hafter : ∀ step ∈ [Step.openSession (some false)], step.Reads
      (ofOneRegion [.int 1]).configuration.settings.defaultAutoCommit overtaken.select.id := by
    intro step hstep
    rw [List.mem_singleton.1 hstep]
    rfl
  obtain ⟨hserves, _, houtdated⟩ :=
    committed_write_is_seen_until_outdated_rows_are_published occurs_overtaken hafter
  refine ⟨?_, ?_⟩
  · have hnew := hserves ⟨fun hpublishes => hpublishes.1.elim, trivial⟩ 2
      { executor := newExecutor {}, autoCommit := false } (by decide +kernel) rfl
    exact (hnew.query _ .null .all none _ rfl rfl rfl).1
  · have hpublishes : last.Publishes (.call 0 .close) := ⟨rfl, rfl⟩
    let key := CacheKey.ofComponents [.text "find", CacheKey.boundValue RowBounds.all.offset,
      CacheKey.boundValue RowBounds.all.limit, .text "development"]
    have hstaged : ((last.sessions.get? 0).bind fun session =>
        (session.executor.work.viewOf users).staged.get? key) = some [.int 1] := by
      decide +kernel
    have hstages : last.Stages 0 users key [.int 1] := Option.bind_eq_some_iff.1 hstaged
    exact houtdated (.call 0 .close) trivial ⟨hpublishes, 0, key, [.int 1], rfl, hstages,
      fun hrows => absurd (hrows .null .all rfl) (by decide)⟩ rfl

end System

end DataMapper
