import DataMapper.Proofs.System.OpenWrites
/-!
# Invalidation

A write that flushes a region leaves a clear of it pending. The clear is published by the next
boundary of the session that reaches the regions, so that whatever the region holds afterwards was
written to it since. The clear is lost if the session rolls back, and if the region refuses it: what
a region has refused is not attempted again.
-/

namespace DataMapper

namespace UnitOfWork

variable {u u' : UnitOfWork} {r r' : RegionRef} {key : CacheKey} {rows : Rows}

/-- A clear of the region is pending. -/
def Clears (r : RegionRef) (u : UnitOfWork) : Prop :=
  ∃ v, u.views.get? r.id = some v ∧ v.region.slot = r.slot ∧ v.clearOnCommit = true

/-- What a unit of work finds it has staged, or the region holds it. -/
theorem staged_or_held_of_hit {store : RegionStore} (h : (u.get store r key).1 = .ok (.hit rows)) :
    (u.viewOf r).staged.get? key = some rows ∨ (store.storage r).contains key = true := by
  unfold get at h
  cases hview : u.view? r with
  | error e =>
    rw [hview] at h
    cases h
  | ok v =>
    rw [viewOf_of_view? hview]
    rw [hview] at h
    dsimp only at h
    unfold Staged.get at h
    cases hstaged : v.staged.get? key with
    | some rows' =>
      rw [hstaged] at h
      cases h
      exact .inl rfl
    | none =>
      rw [hstaged] at h
      dsimp only at h
      have hshares : store.Shares v.region r := .inl (slot_of_view? hview)
      rw [RegionStore.storage_eq_of_shares hshares]
      split_ifs at h with hclear
      · cases h
      · exact .inr (RegionStore.contains_of_hit h)

/-- A pending clear stays pending when a view is replaced by one of the same region that is to be
cleared if the former is. -/
theorem Clears.setView (h : u.Clears r) {v v' : Staged} (hview : u.view? r' = .ok v)
    (hregion : v'.region = v.region) (hclear : v.clearOnCommit = true → v'.clearOnCommit = true) :
    (u.setView r' v').Clears r := by
  obtain ⟨w, hw, hslot, hpending⟩ := h
  by_cases hid : r.id = r'.id
  · have hwv : w = v := by
      rw [← viewOf_of_view? hview, viewOf, ← hid, hw]
      rfl
    subst hwv
    exact ⟨v', hid ▸ NameMap.get?_insert_self _ _ _, (congrArg _ hregion).trans hslot,
      hclear hpending⟩
  · exact ⟨w, (NameMap.get?_insert_of_ne _ _ hid).trans hw, hslot, hpending⟩

theorem clears_clear (h : u.clear r = .ok u') : u'.Clears r := by
  obtain ⟨v, hview, rfl⟩ := exists_of_modified h
  have hslot : v.region.slot = r.slot := slot_of_view? hview
  exact ⟨v.clear, NameMap.get?_insert_self _ _ _, hslot, rfl⟩

theorem lasting_clears (r : RegionRef) : Lasting (Clears r) where
  clear := fun hclears h => by
    obtain ⟨v, hview, rfl⟩ := exists_of_modified h
    exact hclears.setView hview rfl fun _ => rfl
  get := fun store r' key hclears => by
    unfold UnitOfWork.get
    cases hview : view? _ r' with
    | error e => exact hclears
    | ok v => exact hclears.setView hview rfl id
  put := fun hclears h => by
    obtain ⟨v, hview, rfl⟩ := exists_of_modified h
    exact hclears.setView hview rfl id

end UnitOfWork

/-- A write that succeeds leaves the region of a flushing statement to be cleared. -/
theorem Executor.clears_update {x : Executor} (hx : x.Simple true) {statement : MappedStatement}
    {r : RegionRef} (hcache : statement.cache = some r)
    (hflushes : statement.flushCacheRequired = true) {parameter : Value} {s : Shared} {n : Nat}
    (h : (x.update statement parameter s).1 = .ok n) :
    (x.update statement parameter s).2.1.work.Clears r := by
  cases hx with
  | caching work c =>
    unfold update at h ⊢
    cases hflush : flushIfRequired work statement with
    | error e =>
      rw [hflush] at h
      cases h
    | ok flushed =>
      unfold flushIfRequired at hflush
      rw [hcache] at hflush
      dsimp only at hflush
      rw [if_pos hflushes] at hflush
      exact UnitOfWork.clears_clear hflush

namespace System

open UnitOfWork (Clears)

variable {s : System} {a : Nat} {r : RegionRef} {key : CacheKey} {Q : Session → Prop}

/-! ## Steps while a clear is pending -/

/-- What a region holds once a pending clear is published was written by the step that did so. -/
theorem Coherent.writes_of_publishes (h : s.Coherent) (hworks : s.Works a Q (Clears r))
    {step : Step} (hown : step.session? = some a) (hpublishes : s.Publishes step)
    (htaken : ¬ s.Refuses r step)
    (hkey : ((s.step step).2.shared.regions.storage r).contains key = true) :
    s.Writes r key step := by
  obtain ⟨session, hsession, _, _, v, hview, hslot, hclear⟩ := hworks
  have hsends : s.Sends step v := ⟨hpublishes, a, session, r.id, hown, hsession, hview⟩
  have hempty : v.batch.isEmpty = false := by
    unfold Staged.batch CommitBatch.isEmpty
    rw [hclear]
    rfl
  have haccepts : s.shared.regions.Accepts v.region v.batch :=
    Classical.byContradiction fun hrefused => htaken ⟨v, hsends, hslot, hempty, hrefused⟩
  rcases h.contains_step hkey with hwrites | ⟨_, hkept⟩
  · exact hwrites
  · exact nomatch hclear.symm.trans (hkept v hsends ⟨haccepts, .inl hslot⟩)

/-- A commit that succeeds publishes, if the session has a boundary to meet. -/
theorem Coherent.publishes_of_commit (h : s.Coherent) {session : Session}
    (hsession : s.sessions.get? a = some session) {force : Bool}
    (hrequired : session.boundaryRequired force = true)
    (hok : (s.step (.call a (.commit force))).1.succeeded = true) :
    s.Publishes (.call a (.commit force)) := by
  obtain ⟨session₀, request, hsession₀, hrequest, answer, hanswer⟩ := exists_of_succeeded hok
  obtain rfl : session = session₀ := Option.some.inj (hsession.symm.trans hsession₀)
  obtain ⟨hpoisoned, rfl⟩ := Session.eq_of_unsealed hrequest
  rw [hrequired] at hanswer
  exact (publishes_call hsession _).2
    ⟨hpoisoned, hrequired ▸ Executor.made_of_commit (h a session hsession).2 hanswer⟩

/-- A session that commits by itself undoes nothing, unless it is forced to. -/
theorem not_undoes_of_autoCommit {session : Session} (hsession : s.sessions.get? a = some session)
    (hauto : session.autoCommit = true) {step : Step} (hown : step.session? = some a)
    (hstep : step ≠ .call a (.rollback true)) : ¬ s.Undoes step := by
  have hrequired := Session.boundaryRequired_of_autoCommit hauto
  intro hundoes
  cases step with
  | call id call =>
    obtain rfl : id = a := Option.some.inj hown
    have hcall := (undoes_call hsession call).1 hundoes
    cases call with
    | rollback force =>
      obtain rfl : force = true := (hrequired force).symm.trans hcall.2
      exact hstep rfl
    | close => exact nomatch (hrequired false).symm.trans hcall.2
    | _ => exact hcall
  | dropSession id =>
    obtain rfl : id = a := Option.some.inj hown
    have hends := (undoes_dropSession hsession).1 hundoes
    exact nomatch (hrequired false).symm.trans hends.2
  | _ => cases hown

theorem not_refuses_of_inMemory (h : s.shared.regions.InMemory r) (step : Step) :
    ¬ s.Refuses r step := by
  rintro ⟨v, _, hslot, _, hrefused⟩
  exact hrefused ((h.of_slot hslot).accepts v.batch)

/-- A step writes under keys only that some session has staged. -/
theorem not_sometime_writes {events : List Event}
    (h : s.Throughout (fun s _ => ∀ e ∈ s.sessions.entries,
      ∀ v ∈ e.2.executor.work.views.entries, v.2.staged.contains key = false) events) :
    ¬ s.Sometime (fun s step => s.Writes r key step) events := by
  refine Throughout.not_sometime (h.imp fun s step hunstaged => ?_)
  rintro ⟨v, ⟨_, a, session, id, _, hsession, hview⟩, _, rows, hrows⟩
  have hstaged : v.staged.get? key = some rows := (Table.get?_eq_some_iff _).2 hrows
  have hnone := hunstaged (a, session) ((Table.get?_eq_some_iff _).1 hsession) (id, v)
    ((NameMap.get?_eq_some_iff _).1 hview)
  unfold Table.contains at hnone
  rw [hstaged] at hnone
  cases hnone

/-! ## Runs -/

/-- What a region holds after a run it held before, or it was written in the run. -/
theorem Coherent.contains_after (h : s.Coherent) {events : List Event}
    (hkey : ((s.after events).shared.regions.storage r).contains key = true) :
    (s.shared.regions.storage r).contains key = true ∨
      s.Sometime (fun s step => s.Writes r key step) events := by
  induction events generalizing s with
  | nil => exact .inl hkey
  | cons event rest ih =>
    cases event with
    | step step =>
      rcases ih (h.step step) hkey with hheld | hsometime
      · rcases h.contains_step hheld with hwrites | ⟨hheld, _⟩
        · exact .inr (.inl hwrites)
        · exact .inl hheld
      · exact .inr (.inr hsometime)
    | refuse r' calls =>
      have hrefused := ih (h.happen (.refuse r' calls)) hkey
      rw [System.happen, refuse, RegionStore.storage_setRefusing] at hrefused
      exact hrefused

/-- A clear stays pending until it is published, and whatever the region holds from then on was
written to it since. -/
theorem Coherent.works_or_written (h : s.Coherent)
    (hQ : ∀ cached session session', Session.Retains (Clears r) cached session session' →
      Q session → Q session')
    (hworks : s.Works a Q (Clears r)) {events : List Event}
    (hevents : s.Throughout (fun s step => step.session? = some a → s.Works a Q (Clears r) →
      ¬ s.Undoes step ∧ ¬ s.Refuses r step) events) :
    (s.after events).Works a Q (Clears r) ∨
      ∀ key, ((s.after events).shared.regions.storage r).contains key = true →
        s.Sometime (fun s step => s.Writes r key step) events := by
  induction events generalizing s with
  | nil => exact .inl hworks
  | cons event rest ih =>
    cases event with
    | refuse r' calls => exact ih (h.happen (.refuse r' calls)) hworks hevents
    | step step =>
      obtain ⟨hstep, hrest⟩ := hevents
      by_cases hpublished : step.session? = some a ∧ s.Publishes step
      · obtain ⟨hown, hpublishes⟩ := hpublished
        refine .inr fun key hkey => ?_
        rcases (h.step step).contains_after hkey with hheld | hsometime
        · exact .inl (h.writes_of_publishes hworks hown hpublishes (hstep hown hworks).2 hheld)
        · exact .inr hsometime
      · have hworks' : (s.step step).2.Works a Q (Clears r) :=
          h.works_step (UnitOfWork.lasting_clears r) hQ hworks fun hown =>
            ⟨fun hpublishes => hpublished ⟨hown, hpublishes⟩, (hstep hown hworks).1⟩
        rcases ih (h.step step) hworks' hrest with hpending | hwritten
        · exact .inl hpending
        · exact .inr fun key hkey => .inr (hwritten key hkey)

/-- Once a commit that is to reach the source has succeeded, the region holds nothing but what was
written to it while the clear was pending. -/
theorem Coherent.written_of_commit (h : s.Coherent)
    (hQ : ∀ cached session session', Session.Retains (Clears r) cached session session' →
      Q session → Q session')
    {force : Bool} (hrequired : ∀ session, Q session → session.boundaryRequired force = true)
    (hworks : s.Works a Q (Clears r)) {events : List Event}
    (hevents : s.Throughout (fun s step => step.session? = some a → s.Works a Q (Clears r) →
      ¬ s.Undoes step ∧ ¬ s.Refuses r step) events)
    (hok : ((s.after events).step (.call a (.commit force))).1.succeeded = true)
    (hkey : (((s.after events).step (.call a (.commit force))).2.shared.regions.storage r).contains
      key = true) :
    s.Sometime (fun s step => s.Writes r key step)
      (events ++ [.step (.call a (.commit force))]) := by
  have hafter := h.after events
  rw [sometime_append]
  rcases h.works_or_written hQ hworks hevents with hpending | hwritten
  · have ⟨session, hsession, _, hq, _⟩ := hpending
    have hpublishes := hafter.publishes_of_commit hsession (hrequired session hq) hok
    have htaken := hafter.not_refuses_of_succeeded (r := r) hok
    exact .inr (.inl (hafter.writes_of_publishes hpending rfl hpublishes htaken hkey))
  · rcases hafter.contains_step hkey with hwrites | ⟨hheld, _⟩
    · exact .inr (.inl hwrites)
    · exact .inl (hwritten key hheld)

/-- Nothing takes a pending clear from a session that commits by itself but a forced rollback, as
long as the region is in memory and takes every batch. -/
theorem Coherent.throughout_of_autoCommit (h : s.Coherent) (hmemory : s.shared.regions.InMemory r)
    {events : List Event} (hsteps : ∀ event ∈ events, event.IsStep)
    (hkept : Event.step (.call a (.rollback true)) ∉ events) :
    s.Throughout (fun s step => step.session? = some a →
      s.Works a (fun session => session.autoCommit = true) (Clears r) →
        ¬ s.Undoes step ∧ ¬ s.Refuses r step) events := by
  induction events generalizing s with
  | nil => trivial
  | cons event rest ih =>
    obtain ⟨hfirst, hrest⟩ := List.forall_mem_cons.1 hsteps
    obtain ⟨hne, hkept'⟩ := not_or.1 (mt List.mem_cons.2 hkept)
    cases event with
    | refuse r' calls => exact hfirst.elim
    | step step =>
      have hmemory' := hmemory.of_sameLayout (h.sameLayout_step step)
      refine ⟨fun hown hworks => ?_, ih (h.step step) hmemory' hrest hkept'⟩
      obtain ⟨session, hsession, _, hauto, _⟩ := hworks
      have hstep : step ≠ .call a (.rollback true) := fun heq => hne (congrArg Event.step heq.symm)
      exact ⟨not_undoes_of_autoCommit hsession hauto hown hstep,
        not_refuses_of_inMemory hmemory step⟩

end System

/-! ## Writes that flush a region -/

namespace PastWrite

open DataMapper.System (users findKey ofOneRegion not_undoes_of_call not_publishes_of_call
  not_sometime_writes)

variable (w : PastWrite) (s : System)

/-- A session in this mode has written with a statement that flushes the region. -/
structure Flushes (autoCommit : Bool) (r : RegionRef) : Prop extends Succeeds w s autoCommit where
  cached : (w.atWrite s).configuration.settings.cacheEnabled = true
  flushes : ∃ id statement, w.call.written? = some id ∧
    (w.atWrite s).configuration.toCatalog.statement id = .ok statement ∧
    statement.cache = some r ∧ statement.flushCacheRequired = true

/-- The region holds an entry from before the write even after this step of the writer, which
succeeds, although nothing has written the entry again. -/
structure Outlives (r : RegionRef) (key : CacheKey) (last : SessionCall) : Prop where
  held : ((w.atWrite s).shared.regions.storage r).contains key = true
  succeeded : ((w.now s).step (.call w.writer last)).1.succeeded = true
  kept : (((w.now s).step (.call w.writer last)).2.shared.regions.storage r).contains key = true
  unwritten : ¬ (w.written s).Sometime (fun s step => s.Writes r key step)
    (w.since ++ [.step (.call w.writer last)])

variable {w s} {autoCommit : Bool} {r : RegionRef}

/-- The write leaves a clear pending in its session. -/
theorem Flushes.works (h : w.Flushes s autoCommit r) :
    (w.written s).Works w.writer
      (fun session => session.autoCommit = autoCommit ∧ session.dirty = true)
      (UnitOfWork.Clears r) := by
  obtain ⟨session, hsession, hmode⟩ := h.mode
  obtain ⟨id, statement, hcall, hfound, hcache, hflushes⟩ := h.flushes
  obtain ⟨session₀, statement₀, parameter, hsession₀, hfound₀, ⟨n, hn⟩, session', hsession',
    hexecutor, hopen, hkept, hdirty⟩ := h.coherent.exists_of_written hcall h.succeeded
  obtain rfl : session = session₀ := Option.some.inj (hsession.symm.trans hsession₀)
  obtain rfl : statement = statement₀ := Except.ok.inj (hfound.symm.trans hfound₀)
  have hx := (h.coherent w.writer session hsession).2
  rw [h.cached] at hx
  have hclears := Executor.clears_update hx hcache hflushes hn
  exact ⟨session', hsession', hopen, ⟨hkept.trans hmode, hdirty⟩, hexecutor ▸ hclears⟩

/-! ## A write between an entry and a commit -/

/-- A session selects and commits, so that the region has an entry, and then it writes. -/
def overwriting (autoCommit : Bool) (since : List Event) : PastWrite where
  writer := 0
  call := .update "touch" .null
  before :=
    [.step (.openSession (some autoCommit)), .step (.call 0 (.selectList "find" .null .all)),
      .step (.call 0 (.commit true))]
  since

theorem flushes_overwriting (autoCommit : Bool) (since : List Event) :
    (overwriting autoCommit since).Flushes (ofOneRegion [.int 1]) autoCommit users := by
  let atWrite := (overwriting autoCommit []).atWrite (ofOneRegion [.int 1])
  have hbefore : (atWrite.sessions.get? 0).map Session.autoCommit = some autoCommit ∧
      (atWrite.step (.call 0 (.update "touch" .null))).1.succeeded = true ∧
      atWrite.configuration.settings.cacheEnabled = true := by
    cases autoCommit <;> decide +kernel
  exact {
    sessions := rfl
    mode := Option.map_eq_some_iff.1 hbefore.1
    succeeded := hbefore.2.1
    cached := hbefore.2.2
    flushes :=
      ⟨"touch", .flushingUpdate "touch" users, rfl, by cases autoCommit <;> rfl, rfl, rfl⟩ }

/-! ## Sessions that commit at boundaries -/

/-- After a flushing write and a later commit of the session that succeeds, the region holds nothing
but what was written to it since the write, provided that the session has rolled nothing back and
the region has refused nothing of it in between. -/
theorem committed_flush_leaves_what_was_written_since (h : w.Flushes s false r)
    (hsince : (w.written s).Throughout (fun s step => step.session? = some w.writer →
      ¬ s.Undoes step ∧ ¬ s.Refuses r step) w.since)
    {force : Bool} (hcommit :
      ((w.now s).step (.call w.writer (.commit force))).1.succeeded = true)
    {key : CacheKey} (hkey : (((w.now s).step
      (.call w.writer (.commit force))).2.shared.regions.storage r).contains key = true) :
    (w.written s).Sometime (fun s step => s.Writes r key step)
      (w.since ++ [.step (.call w.writer (.commit force))]) := by
  obtain ⟨session, hsession, hopen, ⟨hmanual, hdirty⟩, hclears⟩ := h.works
  have hwritten : (w.written s).Coherent := h.coherent.step (.call w.writer w.call)
  have hworks : (w.written s).Works w.writer Session.Owing (UnitOfWork.Clears r) :=
    ⟨session, hsession, hopen, ⟨hmanual, hdirty⟩, hclears⟩
  exact hwritten.written_of_commit (fun _ _ _ hretains howing => hretains.owing howing)
    (fun _ howing => howing.boundaryRequired force) hworks
    (hsince.imp fun _ _ hstep hown _ => hstep hown) hcommit hkey

/-- The region refuses the first commit after the write, and takes every batch from then on. -/
def refusedOnce : List Event :=
  [.refuse users [.apply], .step (.call 0 (.commit false)), .refuse users []]

/-- The second commit succeeds, and yet the entry from before the write is still there. -/
theorem entry_outlives_refused_flush :
    let w := overwriting false refusedOnce
    let s := ofOneRegion [.int 1]
    w.Flushes s false users ∧
      (w.written s).Throughout (fun s step => step.session? = some 0 → ¬ s.Undoes step) w.since ∧
      w.Outlives s users findKey (.commit false) := by
  intro w s
  refine ⟨flushes_overwriting false refusedOnce,
    ⟨fun _ => not_undoes_of_call fun _ => id, trivial⟩, ?_⟩
  exact {
    held := by decide +kernel
    succeeded := by decide +kernel
    kept := by decide +kernel
    unwritten := not_sometime_writes (by decide +kernel) }

/-- The source has another row, which the session selects. -/
def reselecting : List Event :=
  [.step (.setRows "find" [.int 2]), .step (.call 0 (.selectList "find" .null .all))]

/-- The entry that the region holds after the commit is the one that the session has selected. -/
theorem reselected_entry_was_written_since :
    let w := overwriting false reselecting
    let s := ofOneRegion [.int 1]
    ((w.now s).step (.call 0 (.commit false))).2.shared.regions.contents users findKey =
        some [.int 2] ∧
      (w.written s).Sometime (fun s step => s.Writes users findKey step)
        (reselecting ++ [.step (.call 0 (.commit false))]) := by
  intro w s
  have hsince : (w.written s).Throughout (fun s step => step.session? = some 0 →
      ¬ s.Undoes step ∧ ¬ s.Refuses users step) reselecting :=
    ⟨nofun, fun _ => ⟨not_undoes_of_call fun _ => id,
      fun ⟨_, hsends, _⟩ => not_publishes_of_call (fun _ => id) hsends.1⟩, trivial⟩
  exact ⟨by decide +kernel, committed_flush_leaves_what_was_written_since
    (flushes_overwriting false reselecting) hsince (by decide +kernel) (by decide +kernel)⟩

/-! ## Sessions that commit by themselves -/

/-- After a flushing write of a session that commits by itself and a later forced commit that
succeeds, with no forced rollback in between, a region in memory holds nothing but what was written
to it since the write, and sessions are served nothing else from it that they have not staged
themselves. -/
theorem forced_commit_leaves_what_was_written_since (h : w.Flushes s true r)
    (hmemory : (w.atWrite s).shared.regions.InMemory r)
    (hsteps : ∀ event ∈ w.since, event.IsStep)
    (hkept : Event.step (.call w.writer (.rollback true)) ∉ w.since)
    (hcommit : ((w.now s).step (.call w.writer (.commit true))).1.succeeded = true)
    (later : List Event) :
    let events := w.since ++ [.step (.call w.writer (.commit true))] ++ later
    let last := (w.written s).after events
    ∀ key, ((last.shared.regions.storage r).contains key = true →
        (w.written s).Sometime (fun s step => s.Writes r key step) events) ∧
      ∀ id session rows, last.sessions.get? id = some session →
        (session.executor.work.get last.shared.regions r key).1 = .ok (.hit rows) →
          last.Stages id r key rows ∨
            (w.written s).Sometime (fun s step => s.Writes r key step) events := by
  intro events last key
  obtain ⟨session, hsession, hopen, ⟨hauto, _⟩, hclears⟩ := h.works
  have hwritten : (w.written s).Coherent := h.coherent.step (.call w.writer w.call)
  have hworks : (w.written s).Works w.writer (fun session => session.autoCommit = true)
      (UnitOfWork.Clears r) := ⟨session, hsession, hopen, hauto, hclears⟩
  have hmemory' : (w.written s).shared.regions.InMemory r :=
    hmemory.of_sameLayout (h.coherent.sameLayout_step (.call w.writer w.call))
  have hheld : (last.shared.regions.storage r).contains key = true →
      (w.written s).Sometime (fun s step => s.Writes r key step) events := by
    intro hkey
    have hlast : last = ((w.written s).after
        (w.since ++ [.step (.call w.writer (.commit true))])).after later :=
      System.after_append _ _ _
    rw [hlast] at hkey
    refine System.sometime_append.2 ?_
    rcases (hwritten.after _).contains_after hkey with hcommitted | hlater
    · rw [System.after_append] at hcommitted
      exact .inl (hwritten.written_of_commit
        (fun _ _ _ hretains hauto => hretains.autoCommit.trans hauto)
        (fun _ hauto => Session.boundaryRequired_of_autoCommit hauto true) hworks
        (hwritten.throughout_of_autoCommit hmemory' hsteps hkept) hcommit hcommitted)
    · exact .inr hlater
  refine ⟨hheld, fun id session rows hsession hhit => ?_⟩
  rcases UnitOfWork.staged_or_held_of_hit hhit with hstaged | hkey
  · exact .inl ⟨session, hsession, hstaged⟩
  · exact .inr (hheld hkey)

/-- A commit that is not forced succeeds and leaves the entry from before the write, so that a
session opened next is served the old row. The same entry outlives a forced commit that follows a
forced rollback. -/
theorem entry_outlives_unforced_commit :
    let w := overwriting true [.step (.setRows "find" [.int 2])]
    let undone := overwriting true [.step (.call 0 (.rollback true))]
    let s := ofOneRegion [.int 1]
    w.Flushes s true users ∧ s.shared.regions.InMemory users ∧
      w.Outlives s users findKey (.commit false) ∧
      (((w.now s).step (.call 0 (.commit false))).2.run
          [.openSession none, .call 1 (.selectList "find" .null .all)]).1.map Reply.rows? =
        [none, some [.int 1]] ∧
      undone.Flushes s true users ∧ undone.Outlives s users findKey (.commit true) := by
  intro w undone s
  have hw : w.Flushes s true users := flushes_overwriting true _
  have hundone : undone.Flushes s true users := flushes_overwriting true _
  refine ⟨hw, ?_, ?_, ?_, hundone, ?_⟩
  · exact RegionStore.inMemory_openMemory .empty "users"
  · exact {
      held := by decide +kernel
      succeeded := by decide +kernel
      kept := by decide +kernel
      unwritten := not_sometime_writes (by decide +kernel) }
  · decide +kernel
  · exact {
      held := by decide +kernel
      succeeded := by decide +kernel
      kept := by decide +kernel
      unwritten := not_sometime_writes (by decide +kernel) }

/-- A session opened after a forced commit finds the row that the writer has selected since. -/
theorem reselected_row_is_found_after_forced_commit :
    let w := overwriting true reselecting
    let s := ofOneRegion [.int 1]
    let events := reselecting ++ [.step (.call 0 (.commit true))] ++ [.step (.openSession none)]
    ((w.written s).after events).shared.regions.contents users findKey = some [.int 2] ∧
      (w.written s).Sometime (fun s step => s.Writes users findKey step) events := by
  intro w s events
  have hmemory : (w.atWrite s).shared.regions.InMemory users :=
    ⟨by decide +kernel, ⟨_, rfl⟩, by decide +kernel⟩
  have hsteps : ∀ event ∈ reselecting, event.IsStep :=
    List.forall_mem_cons.2 ⟨trivial, List.forall_mem_singleton.2 trivial⟩
  have hkept : Event.step (.call 0 (.rollback true)) ∉ reselecting := by
    simp [reselecting]
  have hlater := forced_commit_leaves_what_was_written_since (flushes_overwriting true reselecting)
    hmemory hsteps hkept (by decide +kernel) [.step (.openSession none)] findKey
  exact ⟨by decide +kernel, hlater.1 (by decide +kernel)⟩

end PastWrite

end DataMapper
