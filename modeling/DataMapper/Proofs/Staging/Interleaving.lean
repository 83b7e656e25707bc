import DataMapper.Proofs.Staging.Views
import Mathlib.Logic.Function.Basic
/-!
# Interleaved units of work

Any number of units of work over the same regions, in any order of calls. The specification keeps no
buffer: it writes down what every unit puts and clears, and replays the whole log. Main statement:
after every run each unit sees its own log replayed over what the regions hold, and the regions hold
the committed logs replayed in the order of the commits.
-/

namespace DataMapper

/-! ## Logs -/

/-- One write of a unit of work. -/
inductive Write where
  | put (key : CacheKey) (rows : Rows)
  | clear

def Write.apply : Write → Contents → Contents
  | put key rows, base => fun k => if k = key then some rows else base k
  | clear, _ => fun _ => none

/-- Contents after a log of writes. -/
def replay (log : List Write) (base : Contents) : Contents :=
  log.foldl (fun contents w => w.apply contents) base

theorem replay_append (log log' : List Write) (base : Contents) :
    replay (log ++ log') base = replay log' (replay log base) := by
  simp [replay, List.foldl_append]

/-- The view has buffered a log: it sees what the log replays to, whatever the region holds. -/
structure Staged.Buffers (v : Staged) (log : List Write) : Prop where
  overlay_eq : ∀ base, v.overlay base = replay log base
  isDirty_iff : v.isDirty = true ↔ log ≠ []

namespace Staged.Buffers

variable {v : Staged} {log : List Write}

theorem fresh (r : RegionRef) : Buffers { region := r } [] :=
  ⟨fun base => overlay_fresh r base, by simp [isDirty, Table.isEmpty, Table.empty]⟩

theorem reset (v : Staged) : v.reset.Buffers [] :=
  ⟨fun base => overlay_reset v base, by simp⟩

theorem put (h : v.Buffers log) (key : CacheKey) (rows : Rows) :
    (v.put key rows).Buffers (log ++ [.put key rows]) := by
  refine ⟨fun base => ?_, by simp⟩
  rw [overlay_put, h.overlay_eq, replay_append]
  rfl

theorem clear (v : Staged) (log : List Write) : v.clear.Buffers (log ++ [.clear]) := by
  refine ⟨fun base => ?_, by simp⟩
  rw [overlay_clear, replay_append]
  rfl

end Staged.Buffers

/-! ## Calls -/

/-- An order in which the staged entries of each region are drained. -/
structure Drain where
  order : String → List (CacheKey × Rows) → List (CacheKey × Rows)
  perm : ∀ id entries, (order id entries).Perm entries

/-- The order in which the entries were first put. -/
def Drain.inOrder : Drain :=
  ⟨fun _ entries => entries, fun _ entries => .refl entries⟩

/-- The view whose staged entries stand in the order of draining. -/
def Staged.drained (v : Staged) (d : Drain) : Staged :=
  { v with staged := v.staged.reorder (d.order v.region.id v.staged.entries) (d.perm _ _) }

def UnitOfWork.drained (u : UnitOfWork) (d : Drain) : UnitOfWork :=
  ⟨u.views.map fun v => v.drained d⟩

inductive UnitCall where
  | get (r : RegionRef) (key : CacheKey)
  | put (r : RegionRef) (key : CacheKey) (rows : Rows)
  | clear (r : RegionRef)
  | commitAll (drain : Drain)
  | rollbackAll

inductive UnitReply where
  | found (answer : Lookup)
  | done
  | refused (e : Error)

namespace UnitCall

/-- The call uses no region outside of a list. -/
def On (regions : List RegionRef) : UnitCall → Prop
  | get r _ | put r _ _ | clear r => r ∈ regions
  | commitAll _ | rollbackAll => True

def isCommit : UnitCall → Bool
  | commitAll _ => true
  | _ => false

end UnitCall

/-- Units of work by number, over one store. -/
structure Workspace where
  units : Nat → UnitOfWork
  store : RegionStore

namespace Workspace

def fresh (store : RegionStore) : Workspace :=
  ⟨fun _ => .empty, store⟩

/-- The workspace after a call of one unit, with what this unit and the store have become. -/
def next (w : Workspace) (m : Nat) (u : UnitOfWork) (store : RegionStore) : Workspace :=
  ⟨Function.update w.units m u, store⟩

def step (w : Workspace) (m : Nat) : UnitCall → UnitReply × Workspace
  | .get r key =>
    match (w.units m).get w.store r key with
    | (.ok answer, u, store) => (.found answer, w.next m u store)
    | (.error e, u, store) => (.refused e, w.next m u store)
  | .put r key rows =>
    match (w.units m).put r key rows with
    | .ok u => (.done, w.next m u w.store)
    | .error e => (.refused e, w)
  | .clear r =>
    match (w.units m).clear r with
    | .ok u => (.done, w.next m u w.store)
    | .error e => (.refused e, w)
  | .commitAll drain =>
    match ((w.units m).drained drain).commitAll w.store with
    | (.ok (), u, store) => (.done, w.next m u store)
    | (.error e, u, store) => (.refused e, w.next m u store)
  | .rollbackAll => (.done, w.next m (w.units m).rollbackAll w.store)

/-- The workspace after a history of calls, each with the number of its unit. -/
def after (w : Workspace) (history : List (Nat × UnitCall)) : Workspace :=
  history.foldl (fun w call => (w.step call.1 call.2).2) w

end Workspace

/-! ## The specification -/

/-- The open log of every unit for every region, and the committed writes of every region. -/
structure Ledger where
  pending : Nat → RegionRef → List Write := fun _ _ => []
  committed : RegionRef → List Write := fun _ => []

namespace Ledger

def note (l : Ledger) (m : Nat) (r : RegionRef) (w : Write) : Ledger :=
  { l with
    pending := Function.update l.pending m
      (Function.update (l.pending m) r (l.pending m r ++ [w])) }

def forget (l : Ledger) (m : Nat) : Ledger :=
  { l with pending := Function.update l.pending m fun _ => [] }

/-- Writes a call down. A commit moves the logs of its unit behind what is committed. -/
def record (l : Ledger) (m : Nat) : UnitCall → Ledger
  | .get _ _ => l
  | .put r key rows => l.note m r (.put key rows)
  | .clear r => l.note m r .clear
  | .commitAll _ => { l.forget m with committed := fun r => l.committed r ++ l.pending m r }
  | .rollbackAll => l.forget m

def ofHistory (history : List (Nat × UnitCall)) : Ledger :=
  history.foldl (fun l call => l.record call.1 call.2) {}

end Ledger

/-! ## The simulation -/

theorem Staged.Buffers.drained {v : Staged} {log : List Write} (h : v.Buffers log) (d : Drain) :
    (v.drained d).Buffers log := by
  refine ⟨fun base => ?_, ?_⟩
  · rw [← h.overlay_eq base]
    funext key
    simp [Staged.overlay_apply, Staged.drained]
  · rw [← h.isDirty_iff]
    simp [Staged.isDirty, Staged.drained]

namespace UnitOfWork

variable {u : UnitOfWork} {regions : List RegionRef}

theorem Within.drained (h : u.Within regions) (d : Drain) : (u.drained d).Within regions := by
  intro id v hv
  unfold UnitOfWork.drained at hv
  rw [NameMap.get?_map] at hv
  obtain ⟨v', hv', rfl⟩ := Option.map_eq_some_iff.1 hv
  exact h id v' hv'

theorem buffers_drained {r : RegionRef} {log : List Write} (h : (u.viewOf r).Buffers log)
    (d : Drain) : ((u.drained d).viewOf r).Buffers log := by
  unfold viewOf at h ⊢
  unfold UnitOfWork.drained
  rw [NameMap.get?_map]
  cases hv : u.views.get? r.id with
  | none => simpa [hv] using h
  | some v =>
    rw [hv] at h
    exact h.drained d

theorem overlay_eq_replay {r : RegionRef} {log : List Write} (h : (u.viewOf r).Buffers log)
    (base : Contents) : u.overlay r base = replay log base :=
  h.overlay_eq base

end UnitOfWork

/-- A workspace is where a ledger says it is, counted from a starting store. -/
structure Workspace.Follows (w : Workspace) (l : Ledger) (regions : List RegionRef)
    (start : RegionStore) : Prop where
  inMemory : ∀ r ∈ regions, w.store.InMemory r
  within : ∀ m, (w.units m).Within regions
  buffers : ∀ m, ∀ r ∈ regions, ((w.units m).viewOf r).Buffers (l.pending m r)
  contents : ∀ r ∈ regions, w.store.contents r = replay (l.committed r) (start.contents r)

namespace Workspace

variable {w : Workspace} {l : Ledger} {regions : List RegionRef} {start : RegionStore}

theorem follows_fresh (hmem : ∀ r ∈ regions, start.InMemory r) :
    (fresh start).Follows {} regions start :=
  ⟨hmem, fun _ => UnitOfWork.within_empty regions, fun _ r _ => .fresh r, fun _ _ => rfl⟩

/-- What one call has to keep, for the unit that makes it. -/
theorem Follows.next (h : w.Follows l regions start) {m : Nat} {u : UnitOfWork}
    {store : RegionStore} {l' : Ledger} (hmem : ∀ r ∈ regions, store.InMemory r)
    (hu : u.Within regions) (hself : ∀ r ∈ regions, (u.viewOf r).Buffers (l'.pending m r))
    (hothers : ∀ m', m' ≠ m → l'.pending m' = l.pending m')
    (hcontents : ∀ r ∈ regions, store.contents r = replay (l'.committed r) (start.contents r)) :
    (w.next m u store).Follows l' regions start := by
  refine ⟨hmem, fun m' => ?_, fun m' r hr => ?_, hcontents⟩
  · by_cases hm : m' = m
    · subst hm
      simpa [Workspace.next] using hu
    · simpa [Workspace.next, hm] using h.within m'
  · by_cases hm : m' = m
    · subst hm
      simpa [Workspace.next] using hself r hr
    · rw [hothers m' hm]
      simpa [Workspace.next, hm] using h.buffers m' r hr

end Workspace

namespace Ledger

@[simp] theorem pending_note (l : Ledger) (m : Nat) (r r' : RegionRef) (w : Write) :
    (l.note m r w).pending m r' =
      if r' = r then l.pending m r ++ [w] else l.pending m r' := by
  unfold note
  by_cases hr : r' = r
  · subst hr
    simp
  · simp [hr]

theorem pending_note_other (l : Ledger) {m m' : Nat} (r : RegionRef) (w : Write) (h : m' ≠ m) :
    (l.note m r w).pending m' = l.pending m' := by
  simp [note, h]

@[simp] theorem pending_forget (l : Ledger) (m : Nat) (r : RegionRef) :
    (l.forget m).pending m r = [] := by
  simp [forget]

theorem pending_forget_other (l : Ledger) {m m' : Nat} (h : m' ≠ m) :
    (l.forget m).pending m' = l.pending m' := by
  simp [forget, h]

end Ledger

namespace Workspace

variable {w : Workspace} {l : Ledger} {regions : List RegionRef} {start : RegionStore}

/-- A write that its unit stages is one more entry of the log. -/
theorem Follows.stage (h : w.Follows l regions start) (hsep : Separate regions) {m : Nat}
    {r : RegionRef} (hr : r ∈ regions) {f : Staged → Staged} {write : Write}
    (hregion : ∀ v, (f v).region = v.region)
    (hf : ∀ v log, v.Buffers log → (f v).Buffers (log ++ [write])) :
    (w.next m ((w.units m).modify r f) w.store).Follows (l.note m r write) regions start := by
  refine h.next h.inMemory ((h.within m).modify hsep hr hregion) (fun r' hr' => ?_)
    (fun m' hm => l.pending_note_other r write hm) h.contents
  rw [UnitOfWork.viewOf_modify, Ledger.pending_note]
  by_cases hid : r'.id = r.id
  · have heq : r' = r := hsep.ids r' hr' r hr hid
    rw [if_pos hid, if_pos heq]
    exact hf _ _ (h.buffers m r hr)
  · have hne : r' ≠ r := fun heq => hid (congrArg RegionRef.id heq)
    rw [if_neg hid, if_neg hne]
    exact h.buffers m r' hr'

theorem Follows.get_step (h : w.Follows l regions start) (hsep : Separate regions) (m : Nat)
    {r : RegionRef} (hr : r ∈ regions) (key : CacheKey) :
    (w.step m (.get r key)).1 =
        .found (.ofOption (replay (l.pending m r) (w.store.contents r) key)) ∧
      (w.step m (.get r key)).2.store.SameEntries w.store ∧
      (w.step m (.get r key)).2.Follows l regions start := by
  obtain ⟨store', hget, hsame⟩ := (h.within m).get_eq hsep hr (h.inMemory r hr) key
  have hstep : w.step m (.get r key) =
      (.found (.ofOption ((w.units m).overlay r (w.store.contents r) key)),
        w.next m ((w.units m).modify r id) store') := by
    simp [step, hget]
  rw [hstep]
  refine ⟨by rw [UnitOfWork.overlay_eq_replay (h.buffers m r hr)], hsame, ?_⟩
  refine h.next (fun r' hr' => (h.inMemory r' hr').of_sameEntries hsame)
    ((h.within m).modify hsep hr fun _ => rfl) (fun r' hr' => ?_) (fun _ _ => rfl)
    fun r' hr' => by rw [hsame.contents, h.contents r' hr']
  rw [UnitOfWork.viewOf_modify]
  split
  · rename_i hid
    have heq : r' = r := hsep.ids r' hr' r hr hid
    subst heq
    exact h.buffers m r' hr'
  · exact h.buffers m r' hr'

theorem Follows.put_step (h : w.Follows l regions start) (hsep : Separate regions) (m : Nat)
    {r : RegionRef} (hr : r ∈ regions) (key : CacheKey) (rows : Rows) :
    ∃ w', w.step m (.put r key rows) = (.done, w') ∧ w'.store = w.store ∧
      w'.Follows (l.note m r (.put key rows)) regions start := by
  refine ⟨w.next m ((w.units m).modify r fun v => v.put key rows) w.store,
    by simp [step, (h.within m).put_eq hsep hr key rows], rfl, ?_⟩
  exact h.stage hsep hr (fun _ => rfl) fun v log hv => hv.put key rows

theorem Follows.clear_step (h : w.Follows l regions start) (hsep : Separate regions) (m : Nat)
    {r : RegionRef} (hr : r ∈ regions) :
    ∃ w', w.step m (.clear r) = (.done, w') ∧ w'.store = w.store ∧
      w'.Follows (l.note m r .clear) regions start := by
  refine ⟨w.next m ((w.units m).modify r Staged.clear) w.store,
    by simp [step, (h.within m).clear_eq hsep hr], rfl, ?_⟩
  exact h.stage hsep hr (fun _ => rfl) fun v log _ => .clear v log

theorem Follows.commitAll_step (h : w.Follows l regions start) (hsep : Separate regions)
    (m : Nat) (drain : Drain) :
    ∃ w', w.step m (.commitAll drain) = (.done, w') ∧
      (∀ r ∈ regions, w'.store.contents r = replay (l.pending m r) (w.store.contents r)) ∧
      w'.Follows (l.record m (.commitAll drain)) regions start := by
  obtain ⟨store', hcommit, hcontents, hkeep⟩ :=
    ((h.within m).drained drain).commitAll_eq hsep h.inMemory
  have hreplay : ∀ r ∈ regions,
      store'.contents r = replay (l.pending m r) (w.store.contents r) := by
    intro r hr
    have hdrained := UnitOfWork.buffers_drained (h.buffers m r hr)
    rw [hcontents r hr, UnitOfWork.overlay_eq_replay (hdrained _)]
  refine ⟨w.next m ((w.units m).drained drain).rollbackAll store', by simp [step, hcommit],
    hreplay, ?_⟩
  refine h.next (fun r hr => hkeep r (h.inMemory r hr)) ((h.within m).drained drain).rollbackAll
    (fun r hr => ?_) (fun m' hm => l.pending_forget_other hm) fun r hr => ?_
  · rw [UnitOfWork.viewOf_rollbackAll]
    simpa [Ledger.record] using Staged.Buffers.reset _
  · rw [hreplay r hr, h.contents r hr]
    exact (replay_append _ _ _).symm

theorem Follows.rollbackAll_step (h : w.Follows l regions start) (m : Nat) :
    (w.step m .rollbackAll).2.Follows (l.forget m) regions start := by
  refine h.next h.inMemory (h.within m).rollbackAll (fun r hr => ?_)
    (fun m' hm => l.pending_forget_other hm) h.contents
  rw [UnitOfWork.viewOf_rollbackAll, Ledger.pending_forget]
  exact .reset _

/-- One call keeps a workspace where the ledger says. -/
theorem Follows.step (h : w.Follows l regions start) (hsep : Separate regions) (m : Nat)
    {call : UnitCall} (hcall : call.On regions) :
    (w.step m call).2.Follows (l.record m call) regions start := by
  cases call with
  | get r key => exact (h.get_step hsep m hcall key).2.2
  | put r key rows =>
    obtain ⟨w', hstep, _, hw'⟩ := h.put_step hsep m hcall key rows
    rw [hstep]
    exact hw'
  | clear r =>
    obtain ⟨w', hstep, _, hw'⟩ := h.clear_step hsep m hcall
    rw [hstep]
    exact hw'
  | commitAll drain =>
    obtain ⟨w', hstep, _, hw'⟩ := h.commitAll_step hsep m drain
    rw [hstep]
    exact hw'
  | rollbackAll => exact h.rollbackAll_step m

theorem Follows.after (h : w.Follows l regions start) (hsep : Separate regions)
    {history : List (Nat × UnitCall)} (hcalls : ∀ c ∈ history, c.2.On regions) :
    (w.after history).Follows (history.foldl (fun l call => l.record call.1 call.2) l)
      regions start := by
  induction history generalizing w l with
  | nil => exact h
  | cons first rest ih =>
    rw [Workspace.after, List.foldl_cons, List.foldl_cons, ← Workspace.after]
    exact ih (h.step hsep first.1 (hcalls first List.mem_cons_self))
      fun c hc => hcalls c (List.mem_cons_of_mem _ hc)

end Workspace

/-! ## Every run replays its logs -/

/-- What a workspace shows of the logs of its units, counted from a starting store. -/
structure Workspace.ReplaysLogs (w : Workspace) (l : Ledger) (regions : List RegionRef)
    (start : RegionStore) : Prop where
  /-- The regions hold the committed writes. -/
  contents_eq : ∀ r ∈ regions, w.store.contents r = replay (l.committed r) (start.contents r)
  isDirty_iff : ∀ m, (w.units m).isDirty = true ↔ ∃ r ∈ regions, l.pending m r ≠ []
  /-- A lookup answers what the own log makes of the region as it is now. -/
  get_eq : ∀ m, ∀ r ∈ regions, ∀ key, (w.step m (.get r key)).1 =
    .found (.ofOption (replay (l.pending m r) (w.store.contents r) key))
  commit_eq : ∀ m drain, (w.step m (.commitAll drain)).1 = .done ∧
    ∀ r ∈ regions, (w.step m (.commitAll drain)).2.store.contents r =
      replay (l.pending m r) (w.store.contents r)
  /-- In the middle of a commit a region has all of the log or nothing of it. -/
  commit_atomic : ∀ m drain done rest,
    ((w.units m).drained drain).views.entries = done ++ rest → ∀ r ∈ regions,
      (UnitOfWork.publishAll done w.store).2.contents r =
          replay (l.pending m r) (w.store.contents r) ∨
        (UnitOfWork.publishAll done w.store).2.contents r = w.store.contents r
  /-- Every other call is answered and leaves all regions alone. -/
  frame : ∀ m call, call.On regions → call.isCommit = false →
    (∀ e, (w.step m call).1 ≠ .refused e) ∧
      ∀ r, (w.step m call).2.store.contents r = w.store.contents r

namespace Workspace

variable {w : Workspace} {l : Ledger} {regions : List RegionRef} {start : RegionStore}

theorem Follows.frame (h : w.Follows l regions start) (hsep : Separate regions) (m : Nat)
    {call : UnitCall} (hcall : call.On regions) (hcommit : call.isCommit = false) :
    (∀ e, (w.step m call).1 ≠ .refused e) ∧
      ∀ r, (w.step m call).2.store.contents r = w.store.contents r := by
  cases call with
  | get r key =>
    obtain ⟨hanswer, hsame, _⟩ := h.get_step hsep m hcall key
    exact ⟨fun e => by simp [hanswer], fun r' => hsame.contents r'⟩
  | put r key rows =>
    obtain ⟨w', hstep, hstore, _⟩ := h.put_step hsep m hcall key rows
    exact ⟨fun e => by simp [hstep], fun r' => by rw [hstep, hstore]⟩
  | clear r =>
    obtain ⟨w', hstep, hstore, _⟩ := h.clear_step hsep m hcall
    exact ⟨fun e => by simp [hstep], fun r' => by rw [hstep, hstore]⟩
  | commitAll drain => simp [UnitCall.isCommit] at hcommit
  | rollbackAll => exact ⟨fun e => by simp [Workspace.step], fun r' => rfl⟩

theorem Follows.replaysLogs (h : w.Follows l regions start) (hsep : Separate regions) :
    w.ReplaysLogs l regions start where
  contents_eq := h.contents
  isDirty_iff m := by
    rw [(h.within m).isDirty_iff hsep]
    constructor
    · rintro ⟨r, hr, hdirty⟩
      exact ⟨r, hr, (h.buffers m r hr).isDirty_iff.1 hdirty⟩
    · rintro ⟨r, hr, hlog⟩
      exact ⟨r, hr, (h.buffers m r hr).isDirty_iff.2 hlog⟩
  get_eq m r hr key := (h.get_step hsep m hr key).1
  commit_eq m drain := by
    obtain ⟨w', hstep, hcontents, _⟩ := h.commitAll_step hsep m drain
    rw [hstep]
    exact ⟨rfl, hcontents⟩
  commit_atomic m drain done rest hviews r hr := by
    obtain ⟨store', hall, hcontents, _⟩ :=
      ((h.within m).drained drain).publishAll_eq hsep h.inMemory hviews
    have hoverlay := UnitOfWork.overlay_eq_replay
      (UnitOfWork.buffers_drained (h.buffers m r hr) drain) (w.store.contents r)
    rw [hall, ← hoverlay]
    exact (hcontents r hr).imp id And.right
  frame m call hcall hcommit := h.frame hsep m hcall hcommit

/-- Units of work over regions in memory, in any order of calls and of draining: after every run
each unit sees its own open log replayed over what the regions hold, and the regions hold the
committed logs replayed in the order of the commits. -/
theorem interleaved_units_replay_logs {store : RegionStore} (hsep : Separate regions)
    (hmem : ∀ r ∈ regions, store.InMemory r) {history : List (Nat × UnitCall)}
    (hcalls : ∀ c ∈ history, c.2.On regions) :
    ((fresh store).after history).ReplaysLogs (.ofHistory history) regions store :=
  ((follows_fresh hmem).after hsep hcalls).replaysLogs hsep

/-- One unit clears a region and commits while another one has an empty result staged for it. -/
theorem two_units_replay_logs :
    let users : RegionRef := ⟨0, "users"⟩
    let orders : RegionRef := ⟨1, "orders"⟩
    let store := ((RegionStore.empty.openMemory "users").2.openMemory "orders").2
    let key := CacheKey.ofComponents [.int 1]
    let history : List (Nat × UnitCall) :=
      [(0, .put users key []), (1, .clear users), (1, .put users key [.null]),
        (1, .put orders key [.int 2]), (1, .commitAll .inOrder), (0, .get users key),
        (0, .rollbackAll), (0, .get users key)]
    Separate [users, orders] ∧ (∀ r ∈ [users, orders], store.InMemory r) ∧
      (∀ c ∈ history, c.2.On [users, orders]) ∧
      ((fresh store).after history).ReplaysLogs (.ofHistory history) [users, orders] store := by
  intro users orders store key history
  have hsep : Separate [users, orders] := ⟨by decide, by decide⟩
  have hmem : ∀ r ∈ [users, orders], store.InMemory r := by
    intro r hr
    have husers := RegionStore.inMemory_openMemory .empty "users"
    rcases List.mem_cons.1 hr with rfl | hr
    · exact husers.openMemory "orders"
    · rw [List.mem_singleton.1 hr]
      exact RegionStore.inMemory_openMemory _ "orders"
  have hcalls : ∀ c ∈ history, c.2.On [users, orders] := by
    simp [history, UnitCall.On]
  exact ⟨hsep, hmem, hcalls, interleaved_units_replay_logs hsep hmem hcalls⟩

end Workspace

end DataMapper
