import DataMapper.Proofs.Executor.Closing
import DataMapper.Proofs.Executor.Custody
import DataMapper.Proofs.Executor.Units
/-!
# Closed executors

What an executor behind a cache still does once it is closed. Its connection turns all selects and
writes away, but the cache asks it for nothing that a region holds, so that such rows are handed out
as before. A statement that flushes leaves a clear pending although it is turned away, and closing
the executor once more publishes the clear. No other row is handed out, and no other request
changes what regions hold.
-/

namespace DataMapper

/-! ## Requests -/

/-- The region that a request flushes. -/
def ExecutorRequest.flushes? (asked : ExecutorRequest) : Option RegionRef :=
  asked.statement?.bind fun statement =>
    if statement.flushCacheRequired then statement.cache else none

/-- The region that an event flushes through one of the executors. -/
def PoolEvent.flushes? (i : Nat) : PoolEvent → Option RegionRef
  | .request j asked => if j = i then asked.flushes? else none
  | .change _ | .refuse _ _ => none

/-- The executor is asked for the rows of the statement under the key, and not by a handler. -/
def ExecutorRequest.SelectsUnder (asked : ExecutorRequest) (x : Executor)
    (statement : MappedStatement) (key : CacheKey) : Prop :=
  ∃ parameter bounds, asked = .keyed statement parameter bounds none key ∨
    (asked = .call (.query statement parameter bounds none) ∧
      x.keyFor statement parameter bounds = .ok key)

theorem ExecutorRequest.on_of_flushes? {asked : ExecutorRequest} {flushed : RegionRef → Prop}
    (h : ∀ r, asked.flushes? = some r → flushed r) : asked.On (fun _ => True) flushed := by
  intro statement hstatement r hcache
  refine ⟨trivial, fun hflushes => h r ?_⟩
  rw [flushes?, hstatement, Option.bind_some, if_pos hflushes, hcache]

/-! ## Views without entries -/

/-- Nothing is staged in the view, and a clear is pending only if its region was flushed. -/
structure Staged.Spent (flushed : RegionRef → Prop) (v : Staged) : Prop where
  staged : v.staged = .empty
  clear : v.clearOnCommit = true → ∃ r, flushed r ∧ r.slot = v.region.slot

/-- Regions that were flushed may have been emptied, and no others have been changed. -/
structure RegionStore.EmptiedAt (flushed : RegionRef → Prop) (start store : RegionStore) :
    Prop where
  shares : ∀ r r', store.Shares r r' ↔ start.Shares r r'
  storage : ∀ r, store.storage r = start.storage r ∨
    (∃ r', flushed r' ∧ start.Shares r' r) ∧ (store.storage r).size = 0

variable {flushed flushed' : RegionRef → Prop} {start store store' : RegionStore}

namespace Staged

variable {v : Staged}

theorem Spent.imp (h : v.Spent flushed) (himp : ∀ r, flushed r → flushed' r) :
    v.Spent flushed' := by
  refine ⟨h.staged, fun hclear => ?_⟩
  obtain ⟨r, hr, hslot⟩ := h.clear hclear
  exact ⟨r, himp r hr, hslot⟩

theorem spent_fresh (r : RegionRef) : ({ region := r } : Staged).Spent flushed :=
  ⟨rfl, fun hclear => by cases hclear⟩

theorem spent_reset (v : Staged) : v.reset.Spent flushed :=
  ⟨rfl, fun hclear => by cases hclear⟩

theorem lasts_spent (flushed : RegionRef → Prop) :
    Lasts (Spent flushed) flushed (fun _ _ _ => False) where
  fresh := spent_fresh _
  clear := fun _ hslot hr => ⟨rfl, fun _ => ⟨_, hr, hslot.symm⟩⟩
  put := fun _ _ hadmits => hadmits.elim
  reset := fun _ => spent_reset _

end Staged

namespace RegionStore.EmptiedAt

theorem refl (flushed : RegionRef → Prop) (start : RegionStore) : EmptiedAt flushed start start :=
  ⟨fun _ _ => Iff.rfl, fun _ => .inl rfl⟩

theorem sameEntries (hsame : store'.SameEntries store) (h : EmptiedAt flushed start store) :
    EmptiedAt flushed start store' := by
  refine ⟨fun r r' => ?_, fun r => ?_⟩
  · exact (SameLayout.of_sameEntries hsame).shares.trans (h.shares r r')
  · rw [hsame.storage r]
    exact h.storage r

/-- A view without entries publishes nothing but its pending clear. -/
theorem publish {v : Staged} (hv : v.Spent flushed) (h : EmptiedAt flushed start store) :
    EmptiedAt flushed start (v.publish store).2 := by
  refine ⟨fun r r' => ?_, fun r => ?_⟩
  · exact (v.sameLayout_publish store).shares.trans (h.shares r r')
  cases hempty : v.batch.isEmpty with
  | true =>
    rw [Staged.publish_of_isEmpty hempty]
    exact h.storage r
  | false =>
    rw [Staged.publish_of_not_isEmpty hempty]
    have hentries : v.batch.entries = [] := by
      rw [Staged.batch, hv.staged]
      rfl
    have hclear : v.batch.clear = true := by
      rw [CommitBatch.isEmpty, hentries] at hempty
      simpa using hempty
    obtain ⟨r', hr', hslot⟩ := hv.clear hclear
    by_cases haccepts : store.Accepts v.region v.batch
    · by_cases hshares : store.Shares v.region r
      · refine .inr ⟨⟨r', hr', ((h.shares _ _).1 hshares).of_slot hslot⟩, ?_⟩
        obtain ⟨st, hst, hstorage⟩ := storage_apply_of_shares haccepts hshares
        rw [hstorage]
        rcases storage_setStorage_of_takes hst with hset | hset
        · rw [hset]
          exact Storage.size_of_applyBatch hclear hentries hst
        · rw [hset]
          rfl
      · rw [storage_apply_of_not_shares hshares]
        exact h.storage r
    · rw [apply_of_not_accepts haccepts]
      exact h.storage r

theorem publishAll {views : List (String × Staged)} (hviews : ∀ e ∈ views, e.2.Spent flushed)
    (h : EmptiedAt flushed start store) :
    EmptiedAt flushed start (UnitOfWork.publishAll views store).2 := by
  induction views generalizing store with
  | nil => exact h
  | cons e rest ih =>
    obtain ⟨hfirst, hrest⟩ := List.forall_mem_cons.1 hviews
    rw [UnitOfWork.snd_publishAll_cons]
    exact ih hrest (h.publish hfirst)

end RegionStore.EmptiedAt

theorem custody_spent (flushed : RegionRef → Prop) (start : RegionStore) :
    Custody (UnitOfWork.EachView (Staged.Spent flushed)) (RegionStore.EmptiedAt flushed start)
      (fun _ => True) flushed (fun _ _ _ => False) :=
  (Staged.lasts_spent flushed).custody _ (fun _ _ hviews hstore => hstore.publishAll hviews)
    fun hsame hstore => hstore.sameEntries hsame

/-- Without entries of its own, a unit of work finds only what the region holds. -/
theorem UnitOfWork.hit_of_spent {u : UnitOfWork} {r : RegionRef} {key : CacheKey} {rows : Rows}
    (hu : u.EachView (Staged.Spent flushed)) (h : (u.get store r key).1 = .ok (.hit rows)) :
    (store.get r key).1 = .ok (.hit rows) := by
  unfold get at h
  cases hview : u.view? r with
  | error e =>
    rw [hview] at h
    cases h
  | ok v =>
    have hstaged : v.staged.get? key = none := by
      rw [(hu.of_view? (Staged.spent_fresh r) hview).staged]
      exact Table.get?_empty key
    rw [hview] at h
    dsimp only at h
    unfold Staged.get at h
    rw [hstaged] at h
    dsimp only at h
    split_ifs at h
    · cases h
    · exact RegionStore.hit_of_slot (slot_of_view? hview).symm h

/-! ## Closed executors -/

namespace Executor

/-- A closed connection behind a cache in which nothing is staged. -/
structure Spent (flushed : RegionRef → Prop) (x : Executor) : Prop where
  simple : x.Simple true
  closed : x.isClosed = true
  views : x.Every (UnitOfWork.EachView (Staged.Spent flushed))

variable {x : Executor} {s : Shared} {statement : MappedStatement} {handler : Option Handler}
  {key : CacheKey} {rows : Rows}

theorem direct_queryWithKey_of_closed {c : Connection} (hclosed : c.closed = true)
    (statement : MappedStatement) (parameter : Value) (bounds : RowBounds)
    (handler : Option Handler) (key : CacheKey) (s : Shared) :
    (direct c).queryWithKey statement parameter bounds handler key s =
      (.error (.error Connection.closedError), direct c, s) := by
  rw [queryWithKey, c.select_of_closed hclosed]

/-- Nothing is fetched from a closed connection. -/
theorem Spent.not_supplies (h : x.Spent flushed) (asked : ExecutorRequest) {f : Fetch}
    (hf : f ∈ (x.serve s asked).1) (region : RegionRef) (key : CacheKey) (rows : Rows) :
    ¬ f.Supplies region key rows := by
  obtain ⟨hx, hclosed, _⟩ := h
  cases hx with
  | caching work c =>
    intro hsupplies
    have hclosed : c.closed = true := hclosed
    obtain ⟨statement, parameter, bounds, handler, key, hf⟩ := mem_serve hf
    obtain ⟨handler', s', hf | hf⟩ := mem_queryNoting hf
    · cases hf
    · rw [hsupplies.outcome, snd_queryNoting, direct_queryWithKey_of_closed hclosed] at hf
      cases hf

theorem simple_serve {cached : Bool} (hx : x.Simple cached) (s : Shared)
    (asked : ExecutorRequest) : (x.serve s asked).2.2.1.Simple cached := by
  cases asked with
  | keyed statement parameter bounds handler key =>
    rw [snd_serve_keyed]
    exact (edits_queryWithKey UnitOfWork.lasting_true hx trivial statement parameter bounds handler
      key s).simple
  | call call =>
    rw [snd_serve_call]
    exact hx.perform

theorem isClosed_serve (h : x.isClosed = true) (s : Shared) (asked : ExecutorRequest) :
    (x.serve s asked).2.2.1.isClosed = true := by
  cases asked with
  | keyed statement parameter bounds handler key =>
    rw [snd_serve_keyed]
    exact (x.keepsOpen_queryWithKey statement parameter bounds handler key s).closed.trans h
  | call call =>
    rw [snd_serve_call]
    by_cases hclose : ∃ forceRollback, call = .close forceRollback
    · obtain ⟨forceRollback, rfl⟩ := hclose
      exact x.isClosed_close s forceRollback
    · exact (x.keepsOpen_perform s fun forceRollback hcall =>
        hclose ⟨forceRollback, hcall⟩).closed.trans h

theorem Spent.serve (h : x.Spent flushed) (s : Shared) {asked : ExecutorRequest}
    (hflushes : ∀ r, asked.flushes? = some r → flushed r) :
    (x.serve s asked).2.2.1.Spent flushed ∧
      RegionStore.EmptiedAt flushed s.regions (x.serve s asked).2.2.2.regions := by
  obtain ⟨hviews, hregions⟩ := (custody_spent flushed s.regions).serve h.views
    (RegionStore.EmptiedAt.refl flushed s.regions) (asked.on_of_flushes? hflushes)
    fun f hf region key rows => h.not_supplies asked hf region key rows
  exact ⟨⟨simple_serve h.simple s asked, isClosed_serve h.closed s asked, hviews⟩, hregions⟩

/-- A close leaves nothing staged, and no clear pending. -/
theorem spent_close (work : UnitOfWork) (c : Connection) (forceRollback : Bool) (s : Shared) :
    ((caching work (direct c)).close forceRollback s).2.1.Spent flushed := by
  have hclosed := isClosed_close (caching work (direct c)) s forceRollback
  have hwork : ((caching work (direct c)).close forceRollback s).2.1 =
      caching work.rollbackAll (direct (c.close s.source forceRollback).2.1) := by
    unfold close
    cases forceRollback with
    | true => rfl
    | false =>
      rw [if_neg Bool.false_ne_true]
      change caching (work.commitAll s.regions).2.1 (direct (c.close s.source false).2.1) = _
      rw [UnitOfWork.commitAll_snd]
  rw [hwork] at hclosed ⊢
  exact ⟨.caching _ _, hclosed, .rollbackAll fun id v _ => v.spent_reset, trivial⟩

/-! ## What a closed executor answers -/

/-- The answers of a closed executor: rows that the region of a select holds under its key, and to
the calls that a closed connection has nothing to do for. -/
inductive AnswersClosed (x : Executor) (s : Shared) : ExecutorRequest → ExecutorReply → Prop where
  | held {asked : ExecutorRequest} {statement : MappedStatement} {region : RegionRef}
    {key : CacheKey} {rows : Rows} (asks : asked.SelectsUnder x statement key)
    (cache : statement.cache = some region) (useCache : statement.useCache = true)
    (inputOnly : statement.hasOutParams = false)
    (hit : (s.regions.get region key).1 = .ok (.hit rows)) : AnswersClosed x s asked (.rows rows)
  | rollback (required : Bool) : AnswersClosed x s (.call (.rollback required)) .done
  | close (forceRollback : Bool) : AnswersClosed x s (.call (.close forceRollback)) .done
  | clearLocalCache : AnswersClosed x s (.call .clearLocalCache) .done

/-- Whatever rows a closed executor hands out, the region holds them. -/
theorem Spent.hit_of_rows (h : x.Spent flushed) {parameter : Value} {bounds : RowBounds}
    (hrows : (x.queryWithKey statement parameter bounds handler key s).1 = .ok rows) :
    handler = none ∧ ∃ region, statement.cache = some region ∧ statement.useCache = true ∧
      statement.hasOutParams = false ∧ (s.regions.get region key).1 = .ok (.hit rows) := by
  obtain ⟨hx, hclosed, hviews⟩ := h
  cases hx with
  | caching work c =>
    have hfetch := direct_queryWithKey_of_closed (c := c) hclosed statement parameter bounds
    have hselects :=
      selects_queryWithKey work (direct c) statement parameter bounds handler key s
    generalize (caching work (direct c)).queryWithKey statement parameter bounds handler key s =
      result at hselects hrows
    cases hselects with
    | passed hflush hpass =>
      rw [passed, hfetch] at hrows
      cases hrows
    | unflushed => cases hrows
    | outParams => cases hrows
    | unanswered => cases hrows
    | @hit region flushed _ _ _ hlooks hget =>
      -- a clear that this very select has left pending counts as well
      have hspent : flushed.EachView (Staged.Spent fun _ => True) :=
        (custody_spent (fun _ => True) s.regions).flush (fun r _ => ⟨trivial, fun _ => trivial⟩)
          (fun id v hv => (hviews.1 id v hv).imp fun _ _ => trivial) hlooks.flush
      refine ⟨rfl, region, hlooks.cache, hlooks.useCache, hlooks.inputOnly, ?_⟩
      cases hrows
      exact UnitOfWork.hit_of_spent hspent (congrArg Prod.fst hget)
    | unfetched => cases hrows
    | unstaged => cases hrows
    | staged _ _ hfetched =>
      rw [hfetch] at hfetched
      cases hfetched

theorem done_of_reply {result : Except Error Unit × Executor × Shared} {answer : ExecutorReply}
    (h : (reply (fun () => .done) result).1 = .ok answer) : answer = .done := by
  obtain ⟨outcome, x, s⟩ := result
  cases outcome with
  | error e => cases h
  | ok _ => exact (Except.ok.inj h).symm

/-- A select that is answered has been answered with what its region holds. -/
theorem Spent.answersClosed_of_rows (h : x.Spent flushed) {asked : ExecutorRequest}
    {reply : ExecutorReply} {parameter : Value} {bounds : RowBounds}
    (hasks : handler = none → asked.SelectsUnder x statement key)
    (hreply : (x.queryWithKey statement parameter bounds handler key s).1.map .rows = .ok reply) :
    x.AnswersClosed s asked reply := by
  cases hselect : (x.queryWithKey statement parameter bounds handler key s).1 with
  | error fault =>
    rw [hselect] at hreply
    cases hreply
  | ok rows =>
    rw [hselect] at hreply
    obtain ⟨hhandler, region, hcache, huse, hout, hhit⟩ := h.hit_of_rows hselect
    exact Except.ok.inj hreply ▸ .held (hasks hhandler) hcache huse hout hhit

theorem Spent.answersClosed (h : x.Spent flushed) {asked : ExecutorRequest}
    {reply : ExecutorReply} (hreply : (x.serve s asked).2.1 = .ok reply) :
    x.AnswersClosed s asked reply := by
  cases asked with
  | keyed statement parameter bounds handler key =>
    rw [snd_serve_keyed] at hreply
    refine h.answersClosed_of_rows (fun hhandler => ?_) hreply
    exact ⟨parameter, bounds, .inl (by rw [hhandler])⟩
  | call call =>
    rw [snd_serve_call] at hreply
    cases call with
    | query statement parameter bounds handler =>
      unfold perform query at hreply
      dsimp only at hreply
      cases hkey : x.keyFor statement parameter bounds with
      | error e =>
        rw [hkey] at hreply
        cases hreply
      | ok key =>
        rw [hkey] at hreply
        refine h.answersClosed_of_rows (fun hhandler => ?_) hreply
        exact ⟨parameter, bounds, .inr ⟨by rw [hhandler], hkey⟩⟩
    | queryCursor statement parameter bounds =>
      obtain ⟨rows, hrows⟩ := eq_ok_of_reply hreply
      exact absurd hrows (not_ok_queryCursor h.closed statement parameter bounds s rows)
    | update statement parameter =>
      exact absurd h.closed (Bool.eq_false_iff.1 (isClosed_of_update h.simple hreply))
    | flushStatements =>
      obtain ⟨_, hok⟩ := eq_ok_of_reply hreply
      exact absurd hok (not_ok_flushStatements h.closed s)
    | commit required =>
      obtain ⟨reached, hok⟩ := eq_ok_of_reply hreply
      exact absurd hok (not_ok_commit h.closed required s reached)
    | rollback required =>
      obtain rfl := done_of_reply hreply
      exact .rollback required
    | close forceRollback =>
      obtain rfl := done_of_reply hreply
      exact .close forceRollback
    | clearLocalCache =>
      cases hreply
      exact .clearLocalCache

/-- Only a close that does not roll back can change what regions hold. -/
theorem Spent.storage_serve (h : x.Spent flushed) {asked : ExecutorRequest}
    (hasked : asked ≠ .call (.close false)) (r : RegionRef) :
    (x.serve s asked).2.2.2.regions.storage r = s.regions.storage r := by
  cases asked with
  | keyed statement parameter bounds handler key =>
    rw [snd_serve_keyed]
    exact (x.sameEntries_queryWithKey statement parameter bounds handler key s).storage r
  | call call =>
    have hpublishes : ¬ call.Publishes x s.source := by
      cases call with
      | commit required =>
        intro hmade
        have hcommit := x.connection.commit_of_closed h.closed s.source required
        cases (congrArg Prod.fst hcommit).symm.trans hmade
      | close forceRollback =>
        rintro rfl
        exact hasked rfl
      | _ => exact id
    rw [snd_serve_call]
    exact (x.sameEntries_perform s hpublishes).storage r

end Executor

/-! ## Runs -/

namespace Pool

variable {p : Pool} {i : Nat}

theorem spent_happen (h : (p.executors i).Spent flushed) {event : PoolEvent}
    (hflushes : ∀ r, event.flushes? i = some r → flushed r) :
    ((p.happen event).2.executors i).Spent flushed := by
  cases event with
  | change change => exact h
  | refuse r calls => exact h
  | request j asked =>
    by_cases hj : j = i
    · subst hj
      have hserve := (h.serve p.shared fun r hr => hflushes r ((if_pos rfl).trans hr)).1
      simpa [happen] using hserve
    · simpa [happen, Function.update_of_ne (Ne.symm hj)] using h

theorem spent_observe {events : List PoolEvent} (h : (p.executors i).Spent flushed)
    (hflushes : ∀ event ∈ events, ∀ r, event.flushes? i = some r → flushed r) :
    ((p.observe events).2.executors i).Spent flushed := by
  induction events generalizing p with
  | nil => exact h
  | cons first rest ih =>
    obtain ⟨hfirst, hrest⟩ := List.forall_mem_cons.1 hflushes
    exact ih (spent_happen h hfirst) hrest

/-- What a closed executor makes of a request, if the regions have been flushed since. -/
structure ServesClosed (flushed : RegionRef → Prop) (x : Executor) (s : Shared)
    (asked : ExecutorRequest) : Prop where
  closed : (x.serve s asked).2.2.1.isClosed = true
  answers : ∀ reply, (x.serve s asked).2.1 = .ok reply → x.AnswersClosed s asked reply
  keeps : asked ≠ .call (.close false) →
    ∀ r, (x.serve s asked).2.2.2.regions.storage r = s.regions.storage r
  empties : ∀ r, (x.serve s asked).2.2.2.regions.storage r = s.regions.storage r ∨
    (∃ r', flushed r' ∧ s.regions.Shares r' r) ∧
      ((x.serve s asked).2.2.2.regions.storage r).size = 0

/-- After a close, whatever it has returned and whatever happens next, the executor stays closed, is
answered for by its regions alone, and changes what they hold only if it is closed once more: then
those may be emptied that it was asked to flush in between. -/
theorem closed_executor_is_answered_by_regions {work : UnitOfWork} {c : Connection}
    (hx : p.executors i = .caching work (.direct c)) (forceRollback : Bool)
    (events : List PoolEvent) (asked : ExecutorRequest) :
    let closed := (p.happen (.request i (.call (.close forceRollback)))).2
    let last := (closed.observe events).2
    ServesClosed (fun r => ∃ event ∈ events, event.flushes? i = some r) (last.executors i)
      last.shared asked := by
  intro closed last
  let flushed : RegionRef → Prop := fun r => ∃ event ∈ events, event.flushes? i = some r
  have hclose : ((p.executors i).serve p.shared (.call (.close forceRollback))).2.2.1.Spent
      flushed := by
    rw [hx, Executor.snd_serve_call]
    exact Executor.spent_close work c forceRollback p.shared
  have hclosed : (closed.executors i).Spent flushed := by
    simpa [closed, happen] using hclose
  have hlast : (last.executors i).Spent flushed :=
    spent_observe hclosed fun event hevent r hr => ⟨event, hevent, hr⟩
  refine ⟨Executor.isClosed_serve hlast.closed last.shared asked,
    fun reply hreply => hlast.answersClosed hreply,
    fun hasked r => hlast.storage_serve hasked r, ?_⟩
  by_cases hasked : asked = .call (.close false)
  · subst hasked
    have hflushes : ∀ r, (ExecutorRequest.call (.close false)).flushes? = some r → flushed r := by
      rintro r ⟨⟩
    exact (hlast.serve last.shared hflushes).2.storage
  · exact fun r => .inl (hlast.storage_serve hasked r)

/-- A closed executor still hands out the row that its close has published. -/
theorem published_row_is_answered_after_close :
    let users : RegionRef := ⟨0, "users"⟩
    let find := MappedStatement.cachedSelect "find" users []
    let start := cached (fun _ => "development")
      { regions := (RegionStore.empty.openMemory "users").2
        source := DataSource.empty.setRows "find" [.int 1] }
    let selected := (start.happen (.request 0 (.call (.query find .null {} none)))).2
    let closed := (selected.happen (.request 0 (.call (.close false)))).2
    let asked : ExecutorRequest := .call (.query find .null {} none)
    (∃ work c, selected.executors 0 = .caching work (.direct c)) ∧
      ServesClosed (fun _ => False) (closed.executors 0) closed.shared asked ∧
      (closed.executors 0).isClosed = true ∧
      ((closed.executors 0).serve closed.shared asked).2.1 = .ok (.rows [.int 1]) := by
  intro users find start selected closed asked
  have hx : ∃ work c, selected.executors 0 = .caching work (.direct c) := ⟨_, _, rfl⟩
  obtain ⟨work, c, hcaching⟩ := hx
  have hserves := closed_executor_is_answered_by_regions hcaching false [] asked
  simp only [List.not_mem_nil, false_and, exists_false] at hserves
  exact ⟨⟨work, c, hcaching⟩, hserves, by decide +kernel, by decide +kernel⟩

/-- A closed executor is not inert: it hands out a row that the region holds, and empties the region
when it is closed again after a write that it has turned away. -/
theorem closed_executor_is_not_inert :
    let users : RegionRef := ⟨0, "users"⟩
    let find := MappedStatement.cachedSelect "find" users []
    let touch := MappedStatement.flushingUpdate "touch" users
    let start := cached (fun _ => "development")
      { regions := (RegionStore.empty.openMemory "users").2
        source := DataSource.empty.setRows "find" [.int 1] }
    let closed := (start.observe
      [.request 0 (.call (.query find .null {} none)), .request 0 (.call (.close false))]).2
    let touched := (closed.observe [.request 0 (.call (.update touch .null))]).2
    let again := (touched.observe [.request 0 (.call (.close false))]).2
    (closed.executors 0).isClosed = true ∧
      ((closed.executors 0).serve closed.shared (.call (.query find .null {} none))).2.1 =
        .ok (.rows [.int 1]) ∧
      ((closed.executors 0).serve closed.shared (.call (.update touch .null))).2.1 =
        .error (.error Connection.closedError) ∧
      ((touched.executors 0).serve touched.shared (.call (.close false))).2.1 = .ok .done ∧
      (touched.shared.regions.storage users).size = 1 ∧
      (again.shared.regions.storage users).size = 0 := by
  decide +kernel

end Pool

end DataMapper
