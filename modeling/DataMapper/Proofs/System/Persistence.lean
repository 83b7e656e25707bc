import DataMapper.Proofs.Executor.Persistence
import DataMapper.Proofs.System.Units
/-!
# Systems over volumes

Sessions cannot tell regions on volumes from regions in memory as long as every entry that one of
them publishes can be kept on a volume: a volume refuses long keys, and does not read deeply nested
rows back.
-/

namespace DataMapper

namespace Session

variable {s : Session} {shared shared' : Shared} {call : SessionCall} {cached : Bool}

/-- A call has one answer and makes one session, whether regions are in memory or on volumes. -/
theorem persists_perform (hx : s.executor.Simple cached) (h : shared.Persists shared')
    (catalog : Catalog)
    (hstorable : s.Publishes shared.source call → s.executor.work.Storable shared.regions) :
    (s.perform catalog shared call).1 = (s.perform catalog shared' call).1 ∧
      (s.perform catalog shared call).2.1 = (s.perform catalog shared' call).2.1 ∧
      (s.perform catalog shared call).2.2.Persists (s.perform catalog shared' call).2.2 := by
  rw [perform_eq, perform_eq]
  cases hrequest : s.request catalog call with
  | error e => exact ⟨rfl, rfl, h⟩
  | ok request =>
    obtain ⟨hanswer, hexecutor, hafter⟩ := Executor.persists_perform hx h request
      fun hpublishes => hstorable (publishes_of_request hrequest hpublishes)
    exact ⟨congrArg (Except.bind · call.answer) hanswer,
      congrArg₂ (s.after call) hanswer hexecutor, hafter⟩

theorem persists_drop (hx : s.executor.Simple cached) (h : shared.Persists shared')
    (hstorable : s.PublishesAtEnd → s.executor.work.Storable shared.regions) :
    (s.drop shared).Persists (s.drop shared') := by
  cases hclosed : s.executor.isClosed with
  | true =>
    unfold drop
    rw [hclosed]
    exact h
  | false =>
    rw [drop_of_open hclosed, drop_of_open hclosed]
    exact (Executor.persists_perform hx h (.close (s.boundaryRequired false))
      fun hpublishes => hstorable ⟨hclosed, hpublishes⟩).shared

end Session

namespace System

variable {s t : System}

/-- Systems that differ only in that some regions of the first are on volumes in the second. -/
structure Persists (s t : System) : Prop where
  configuration : s.configuration = t.configuration
  sessions : s.sessions = t.sessions
  opened : s.opened = t.opened
  shared : s.shared.Persists t.shared

/-- Everything that the step publishes to regions in memory can be kept on volumes. -/
def PublishesStorable (s : System) (step : Step) : Prop :=
  ∀ v, s.Sends step v → s.shared.regions.directory? v.region = none → v.batch.Storable

theorem Persists.modifySource (h : s.Persists t) (f : DataSource → DataSource) :
    (s.modifySource f).Persists (t.modifySource f) :=
  ⟨h.configuration, h.sessions, h.opened, h.shared.regions, congrArg f h.shared.source,
    h.shared.journal⟩

theorem Persists.openSession (h : s.Persists t) (autoCommit : Option Bool) :
    (s.openSession autoCommit).1 = (t.openSession autoCommit).1 ∧
      (s.openSession autoCommit).2.Persists (t.openSession autoCommit).2 := by
  unfold System.openSession
  dsimp only
  rw [h.shared.source, h.configuration, h.opened, h.sessions]
  split_ifs
  · exact ⟨rfl, h⟩
  · exact ⟨rfl, rfl, rfl, rfl, h.shared.withSource _⟩

theorem PublishesStorable.work {step : Step} (h : s.PublishesStorable step)
    (hpublishes : s.Publishes step) {a : Nat} {session : Session} (hown : step.session? = some a)
    (hsession : s.sessions.get? a = some session) :
    session.executor.work.Storable s.shared.regions :=
  fun e he => h e.2
    ⟨hpublishes, a, session, e.1, hown, hsession, (NameMap.get?_eq_some_iff _).2 he⟩

theorem Persists.call (h : s.Persists t) (hcoherent : s.Coherent) {id : Nat} {call : SessionCall}
    (hstorable : s.PublishesStorable (.call id call)) :
    (s.call id call).1 = (t.call id call).1 ∧ (s.call id call).2.Persists (t.call id call).2 := by
  unfold System.call
  rw [← h.sessions, ← h.configuration]
  cases hsession : s.sessions.get? id with
  | none => exact ⟨rfl, h⟩
  | some session =>
    obtain ⟨hanswer, hafter, hshared⟩ := Session.persists_perform (hcoherent id session hsession).2
      h.shared s.configuration.toCatalog fun hpublishes =>
        hstorable.work ((publishes_call hsession call).2 hpublishes) rfl hsession
    exact ⟨congrArg Reply.answered hanswer, rfl, congrArg (s.sessions.insert id) hafter, h.opened,
      hshared⟩

theorem Persists.dropSession (h : s.Persists t) (hcoherent : s.Coherent) {id : Nat}
    (hstorable : s.PublishesStorable (.dropSession id)) :
    (s.dropSession id).1 = (t.dropSession id).1 ∧
      (s.dropSession id).2.Persists (t.dropSession id).2 := by
  unfold System.dropSession
  rw [← h.sessions]
  cases hsession : s.sessions.get? id with
  | none => exact ⟨rfl, h⟩
  | some session =>
    have hshared := Session.persists_drop (hcoherent id session hsession).2 h.shared fun hends =>
      hstorable.work ((publishes_dropSession hsession).2 hends) rfl hsession
    exact ⟨rfl, h.configuration, rfl, h.opened, hshared⟩

/-- A step is answered alike, unless it publishes what cannot be kept on a volume. -/
theorem Persists.step (h : s.Persists t) (hcoherent : s.Coherent) {step : Step}
    (hstorable : s.PublishesStorable step) :
    (s.step step).1 = (t.step step).1 ∧ (s.step step).2.Persists (t.step step).2 := by
  cases step with
  | openSession autoCommit => exact h.openSession autoCommit
  | dropSession id => exact h.dropSession hcoherent hstorable
  | call id call => exact h.call hcoherent hstorable
  | setRows statement rows => exact ⟨rfl, h.modifySource fun d => d.setRows statement rows⟩
  | setAffected statement n => exact ⟨rfl, h.modifySource fun d => d.setAffected statement n⟩
  | fail point => exact ⟨rfl, h.modifySource fun d => d.fail point⟩
  | heal point => exact ⟨rfl, h.modifySource fun d => d.heal point⟩

theorem Persists.run (h : s.Persists t) (hcoherent : s.Coherent) {steps : List Step}
    (hstorable : s.Always PublishesStorable steps) : (s.run steps).1 = (t.run steps).1 := by
  induction steps generalizing s t with
  | nil => rfl
  | cons step rest ih =>
    obtain ⟨hfirst, hrest⟩ := hstorable
    obtain ⟨hreply, hnext⟩ := h.step hcoherent hfirst
    unfold System.run
    exact congrArg₂ List.cons hreply (ih hnext (hcoherent.step step) hrest)

/-! ## Rows that are not read back -/

/-- A fresh session hands on what the region reports. -/
theorem perform_newExecutor_of_error {c : Configuration} {r : RegionRef} {select : MappedStatement}
    (hcaches : c.Caches r select) (hflush : select.flushCacheRequired = false) {s : Shared}
    {parameter : Value} {bounds : RowBounds} {key : CacheKey} {e : Error}
    (hkey : CacheKey.forStatement select parameter bounds c.settings.environmentId = .ok key)
    (hfound : (s.regions.get r key).1 = .error e) :
    ((newExecutor c.settings).perform s (.query select parameter bounds none)).1 =
      .error (.error e) := by
  let connection : Connection := { environment := c.settings.environmentId }
  have hkeyFor : (Executor.caching .empty (.direct connection)).keyFor select parameter bounds =
      .ok key := hkey
  have hflushed : Executor.flushIfRequired .empty select = .ok .empty := by
    unfold Executor.flushIfRequired
    rw [hcaches.cache, hflush]
    rfl
  have hlooked : (UnitOfWork.empty.get s.regions r key).1 = .error e := hfound
  unfold newExecutor Executor.perform
  rw [hcaches.enabled]
  dsimp only
  rw [if_pos rfl, Executor.query_of_key hkeyFor, Executor.queryWithKey_eq_lookedUp _ parameter
    bounds key s hcaches.cache hflushed hcaches.useCache hcaches.inputOnly]
  generalize UnitOfWork.empty.get s.regions r key = p at hlooked
  obtain ⟨found, work, store⟩ := p
  obtain rfl : found = .error e := hlooked
  rfl

/-- A session that is opened over rows that nest too deeply on a volume fails to select them. -/
theorem deep_rows_fail_selects {s : System} {r : RegionRef} {select : MappedStatement}
    (hcaches : s.configuration.Caches r select) (hflush : select.flushCacheRequired = false)
    (hopening : s.shared.source.fails .opening = false)
    (hwilling : s.shared.regions.refuses r .get = false)
    {parameter : Value} {bounds : RowBounds} {key : CacheKey}
    (hkey : CacheKey.forStatement select parameter bounds
      s.configuration.settings.environmentId = .ok key)
    {v : Volume} {rows : Rows} (hvolume : s.shared.regions.storage r = .volume v)
    (htext : v.get? key.encode = some (Rows.jsonText rows))
    (hdepth : Json.maxDepth < Rows.nesting rows) :
    (s.run [.openSession (some false),
        .call s.opened (.selectList select.id parameter bounds)]).1 =
      [.opened s.opened false, .answered (.error (.error
        (RegionStore.failure r VolumeError.unreadableRows.message)))] := by
  have hread : (s.shared.regions.storage r).get? key = .error .unreadableRows := by
    rw [hvolume]
    exact Volume.read?_of_deep htext hdepth
  have hfound : (s.shared.regions.get r key).1 =
      .error (RegionStore.failure r VolumeError.unreadableRows.message) := by
    unfold RegionStore.get
    rw [hwilling, if_neg Bool.false_ne_true, hread]
  have hreplies := replies_of_newExecutor hcaches.found hopening parameter bounds
  have hperform := perform_newExecutor_of_error hcaches hflush
    (s := { s.shared with
      source := { s.shared.source with opened := s.shared.source.opened + 1 } }) hkey hfound
  rw [hreplies, hperform]
  rfl

/-! ## Fresh regions -/

/-- The system with more regions in memory. -/
def openAll (s : System) (ids : List String) : System :=
  { s with shared := { s.shared with regions := s.shared.regions.openAll ids } }

/-- The system with more regions on volumes. -/
def mountAll (s : System) (mounts : List (String × Directory)) : System :=
  { s with shared := { s.shared with regions := s.shared.regions.mountAll mounts } }

/-- A select that the region caches under its parameter, over a source that echoes it. -/
def echoing : System where
  configuration :=
    { statements := NameMap.empty.insert "find" (.cachedSelect "find" users ["id"]) }

/-- The system with the region in memory. -/
def inMemory : System :=
  echoing.openAll ["users"]

/-- The system with the region on a volume. -/
def onVolume : System :=
  echoing.mountAll [("users", ⟨2⟩)]

/-- The first session selects and commits. -/
def committing (parameter : Value) : List Step :=
  [.openSession (some false), .call 0 (.selectList "find" parameter .all), .call 0 (.commit true)]

/-- The second session selects. -/
def selectingAgain (parameter : Value) : List Step :=
  [.openSession (some false), .call 1 (.selectList "find" parameter .all)]

/-- A text that is longer than the keys of volumes. -/
def longText : Value :=
  .text (String.ofList (List.replicate 512 'x'))

/-- A list in a list and so on, 64 of them, beside the property that enters the key. -/
def deepValue : Value :=
  .map [("deep", (List.range 64).foldl (fun v _ => .list [v]) .null), ("id", .int 1)]

/-- The key of the select for 1. -/
def oneKey : CacheKey :=
  .ofComponents [.text "find", .int 1, CacheKey.boundValue RowBounds.all.offset,
    CacheKey.boundValue RowBounds.all.limit, .text "development"]

/-- Whether fresh regions are in memory or on fresh volumes, each in a directory of its own, all
steps have the same answers, as long as every entry that a step publishes to a region in memory has
a key of at most 511 bytes, and rows that nest at most 127 brackets as text. The store may have any
other regions. -/
theorem volumes_answer_as_memory (hsessions : s.sessions = .empty)
    {mounts : List (String × Directory)} (hdistinct : (mounts.map Prod.snd).Nodup)
    (hunused : ∀ m ∈ mounts, s.shared.regions.Unused m.2)
    {steps : List Step}
    (hstorable : (s.openAll (mounts.map Prod.fst)).Always PublishesStorable steps) :
    ((s.openAll (mounts.map Prod.fst)).run steps).1 = ((s.mountAll mounts).run steps).1 := by
  have hregions : (s.shared.regions.openAll (mounts.map Prod.fst)).Persists
      (s.shared.regions.mountAll mounts) :=
    (RegionStore.Persists.refl s.shared.regions).mountAll hunused hdistinct
  have hpersists : (s.openAll (mounts.map Prod.fst)).Persists (s.mountAll mounts) :=
    ⟨rfl, rfl, rfl, hregions, rfl, rfl⟩
  exact hpersists.run (coherent_of_empty hsessions) hstorable

/-- On a volume, the commit of an entry with a long key fails, and so does a later select that meets
an entry with deep rows. In memory, all of these succeed. -/
theorem volume_answers_otherwise :
    (inMemory.run (committing longText)).1.map Reply.succeeded = [false, true, true] ∧
      (onVolume.run (committing longText)).1.map Reply.succeeded = [false, true, false] ∧
      (inMemory.run (committing deepValue)).1.map Reply.succeeded = [false, true, true] ∧
      (onVolume.run (committing deepValue)).1.map Reply.succeeded = [false, true, true] ∧
      ((inMemory.run (committing deepValue)).2.run (selectingAgain deepValue)).1.map
          Reply.succeeded = [false, true] ∧
      ((onVolume.run (committing deepValue)).2.run (selectingAgain deepValue)).1.map
          Reply.succeeded = [false, false] := by
  refine ⟨by decide +kernel, by decide +kernel, by decide +kernel, by decide +kernel,
    by decide +kernel, ?_⟩
  let s := (onVolume.run (committing deepValue)).2
  have hcaches : s.configuration.Caches users (.cachedSelect "find" users ["id"]) :=
    ⟨rfl, rfl, rfl, rfl, rfl⟩
  have hkey : CacheKey.forStatement (.cachedSelect "find" users ["id"]) deepValue .all
      s.configuration.settings.environmentId = .ok oneKey := rfl
  have hdeep : Json.maxDepth < Rows.nesting [deepValue] := by decide +kernel
  have hfails := deep_rows_fail_selects hcaches rfl rfl rfl hkey rfl rfl hdeep
  exact congrArg (List.map Reply.succeeded) hfails

/-- The row that one session publishes is read by the next one, in memory and on a volume. -/
theorem short_entry_is_answered_alike :
    let steps := committing (.int 1) ++ selectingAgain (.int 1)
    (inMemory.run steps).1 = (onVolume.run steps).1 ∧
      (onVolume.run steps).1.map Reply.rows? =
        [none, some [.int 1], none, none, some [.int 1]] := by
  intro steps
  let selected := (inMemory.run ((committing (.int 1)).take 2)).2
  have hselect : ∀ (s : System) (a : Nat),
      s.PublishesStorable (.call a (.selectList "find" (.int 1) .all)) :=
    fun s a _ hsends => absurd hsends.1 (not_publishes_of_call fun _ => id)
  have hcommit : selected.PublishesStorable (.call 0 (.commit true)) := by
    rintro v ⟨_, a, session, id, hown, hsession, hview⟩ _ e he
    obtain rfl : 0 = a := Option.some.inj hown
    have hstaged : ((selected.sessions.get? 0).map fun session =>
        session.executor.work.views.entries.flatMap fun e => e.2.batch.entries) =
        some [(oneKey, [.int 1])] := by
      decide +kernel
    rw [hsession] at hstaged
    have hentries : session.executor.work.views.entries.flatMap (fun e => e.2.batch.entries) =
        [(oneKey, [.int 1])] := Option.some.inj hstaged
    have hmem : e ∈ session.executor.work.views.entries.flatMap fun e => e.2.batch.entries :=
      List.mem_flatMap.2 ⟨(id, v), (NameMap.get?_eq_some_iff _).1 hview, he⟩
    rw [hentries] at hmem
    obtain rfl := List.mem_singleton.1 hmem
    exact ⟨by decide +kernel, ⟨trivial, trivial⟩, by decide +kernel⟩
  have hopening : ∀ s : System, s.PublishesStorable (.openSession (some false)) :=
    fun _ _ hsends => hsends.1.elim
  have hstorable : inMemory.Always PublishesStorable steps :=
    ⟨hopening _, hselect _ 0, hcommit, hopening _, hselect _ 1, trivial⟩
  have hdistinct : ([("users", (⟨2⟩ : Directory))].map Prod.snd).Nodup := by decide
  have hunused : ∀ m ∈ [("users", (⟨2⟩ : Directory))], RegionStore.empty.Unused m.2 :=
    fun _ _ => ⟨fun _ hd => (nomatch hd), rfl⟩
  exact ⟨volumes_answer_as_memory (s := echoing) rfl hdistinct hunused hstorable,
    by decide +kernel⟩

end System

end DataMapper
