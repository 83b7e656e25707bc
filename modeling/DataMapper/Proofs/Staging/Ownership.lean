import DataMapper.Proofs.Region.Application
import DataMapper.Proofs.Staging.Batches
import DataMapper.Proofs.Staging.Interleaving
/-!
# Whose work reaches a region

Regions that share an id are told apart by the first one that a unit of work uses: another one is
turned away, so that what is staged belongs to the region it was staged for. A commit hands each of
the tracked regions its own open log, once and as one batch, whatever the others answer. Main
statement: so it is after every sequence of calls, over stores that may change between them.
-/

namespace DataMapper

/-! ## What a sequence of calls comes to -/

namespace UnitCall

/-- The region that a call is about. -/
def region? : UnitCall → Option RegionRef
  | get r _ | put r _ _ | clear r => some r
  | commitAll _ | rollbackAll => none

/-- The open log of a region after a call. -/
def extend (r : RegionRef) (log : List Write) : UnitCall → List Write
  | get _ _ => log
  | put r' key rows => if r' = r then log ++ [.put key rows] else log
  | clear r' => if r' = r then log ++ [.clear] else log
  | commitAll _ | rollbackAll => []

theorem extend_of_ne {call : UnitCall} {r r' : RegionRef} {log : List Write}
    (hcall : call.region? = some r) (hne : r' ≠ r) : call.extend r' log = log := by
  cases call with
  | get _ _ => rfl
  | put _ _ _ =>
    cases hcall
    exact if_neg hne.symm
  | clear _ =>
    cases hcall
    exact if_neg hne.symm
  | commitAll _ => cases hcall
  | rollbackAll => cases hcall

theorem extend_of_region?_none {call : UnitCall} {r : RegionRef} {log : List Write}
    (hcall : call.region? = none) : call.extend r log = [] := by
  cases call with
  | get _ _ => cases hcall
  | put _ _ _ => cases hcall
  | clear _ => cases hcall
  | commitAll _ => rfl
  | rollbackAll => rfl

end UnitCall

/-- The regions that calls are about, in order. -/
def usedRegions (calls : List UnitCall) : List RegionRef :=
  calls.filterMap UnitCall.region?

/-- The region that an id was first used with. -/
def owner? (calls : List UnitCall) (id : String) : Option RegionRef :=
  (usedRegions calls).find? fun r => r.id = id

/-- What calls have written to a region since the last commit or rollback among them. -/
def openLog (calls : List UnitCall) (r : RegionRef) : List Write :=
  calls.foldl (UnitCall.extend r) []

variable {calls : List UnitCall} {call : UnitCall} {r r' : RegionRef} {id : String}

theorem openLog_concat (calls : List UnitCall) (call : UnitCall) (r : RegionRef) :
    openLog (calls ++ [call]) r = call.extend r (openLog calls r) := by
  simp [openLog, List.foldl_append]

theorem usedRegions_concat (calls : List UnitCall) (call : UnitCall) :
    usedRegions (calls ++ [call]) = usedRegions calls ++ call.region?.toList := by
  rw [usedRegions, List.filterMap_append, ← usedRegions]
  cases h : call.region? <;> simp [h]

theorem owner?_concat (calls : List UnitCall) (call : UnitCall) (id : String) :
    owner? (calls ++ [call]) id =
      (owner? calls id).or (call.region?.filter fun r => r.id = id) := by
  unfold owner?
  rw [usedRegions_concat, List.find?_append]
  congr 1
  cases call.region? with
  | none => rfl
  | some r => by_cases h : r.id = id <;> simp [h, Option.filter_some]

theorem id_of_owner? (h : owner? calls id = some r) : r.id = id := by
  simpa using List.find?_some h

theorem mem_of_owner? (h : owner? calls id = some r) : r ∈ usedRegions calls :=
  List.mem_of_find?_eq_some h

/-- A region can be used if its id is new or its own, and is a stranger to the id otherwise. -/
theorem known_or_stranger (calls : List UnitCall) (r : RegionRef) :
    (owner? calls r.id = none ∨ owner? calls r.id = some r) ∨
      ∃ owner, owner? calls r.id = some owner ∧ r ≠ owner := by
  cases owner? calls r.id with
  | none => exact .inl (.inl rfl)
  | some owner =>
    by_cases heq : r = owner
    · exact .inl (.inr (congrArg some heq.symm))
    · exact .inr ⟨owner, rfl, heq⟩

/-- Nothing is written to a region whose id was never used. -/
theorem openLog_of_owner?_none (h : owner? calls r.id = none) : openLog calls r = [] := by
  induction calls using List.reverseRecOn with
  | nil => rfl
  | append_singleton calls call ih =>
    rw [owner?_concat, Option.or_eq_none_iff] at h
    obtain ⟨hcalls, hcall⟩ := h
    rw [openLog_concat, ih hcalls]
    cases hregion : call.region? with
    | none => exact UnitCall.extend_of_region?_none hregion
    | some r' =>
      refine UnitCall.extend_of_ne hregion ?_
      rintro rfl
      simp [hregion] at hcall

/-! ## Views reflect the calls -/

/-- A unit of work tracks the owners of the ids, and has buffered what was written to them. -/
structure UnitOfWork.Reflects (u : UnitOfWork) (calls : List UnitCall) : Prop where
  owner : ∀ id, (u.views.get? id).map Staged.region = owner? calls id
  buffers : ∀ id v, u.views.get? id = some v → v.Buffers (openLog calls v.region)

/-- A failed lookup is the failure of the region. -/
theorem Staged.error_of_get (v : Staged) (store : RegionStore) (key : CacheKey) (e : Error)
    (h : (v.get store key).1 = .error e) : ∃ reason, e = .cache (.backend v.region.id reason) := by
  unfold get at h
  split at h
  · cases h
  · split_ifs at h
    exact RegionStore.error_of_get h

namespace UnitOfWork.Reflects

variable {u : UnitOfWork}

theorem empty : UnitOfWork.empty.Reflects [] :=
  ⟨fun _ => rfl, fun _ _ h => by simp [UnitOfWork.empty] at h⟩

theorem view?_of_owner (h : u.Reflects calls) (howner : owner? calls r.id = some r) :
    ∃ v, u.view? r = .ok v ∧ v.region = r ∧ v.Buffers (openLog calls r) := by
  have hview := h.owner r.id
  rw [howner, Option.map_eq_some_iff] at hview
  obtain ⟨v, hv, hregion⟩ := hview
  refine ⟨v, ?_, hregion, hregion ▸ h.buffers r.id v hv⟩
  rw [view?, hv]
  exact if_pos (by simp [Staged.isBackedBy, hregion])

theorem view?_of_new (h : u.Reflects calls) (hnew : owner? calls r.id = none) :
    ∃ v, u.view? r = .ok v ∧ v.region = r ∧ v.Buffers (openLog calls r) := by
  have hview := h.owner r.id
  rw [hnew, Option.map_eq_none_iff] at hview
  refine ⟨{ region := r }, ?_, rfl, ?_⟩
  · rw [view?, hview]
  · rw [openLog_of_owner?_none hnew]
    exact .fresh r

/-- An object under the id of another one has no view. -/
theorem view?_of_stranger (h : u.Reflects calls) (howner : owner? calls r.id = some r')
    (hne : r ≠ r') : u.view? r = .error (.cache (.duplicateRegion r.id)) := by
  have hview := h.owner r.id
  rw [howner, Option.map_eq_some_iff] at hview
  obtain ⟨v, hv, rfl⟩ := hview
  have hslot : v.region.slot ≠ r.slot := by
    intro hslot
    apply hne
    obtain ⟨slot, id⟩ := r
    rw [RegionRef.mk.injEq]
    exact ⟨hslot.symm, (id_of_owner? howner).symm⟩
  rw [view?, hv]
  exact if_neg (by simpa [Staged.isBackedBy] using hslot)

/-- A call about a region that is let in changes its view alone. -/
theorem setView (h : u.Reflects calls) (hcall : call.region? = some r)
    (hknown : owner? calls r.id = none ∨ owner? calls r.id = some r) {v : Staged}
    (hregion : v.region = r) (hv : v.Buffers (call.extend r (openLog calls r))) :
    (u.setView r v).Reflects (calls ++ [call]) := by
  refine ⟨fun id => ?_, fun id v' hv' => ?_⟩
  · rw [owner?_concat, hcall, UnitOfWork.setView, NameMap.get?_insert]
    by_cases hid : id = r.id
    · subst hid
      rcases hknown with hnew | howner
      · simp [hnew, hregion, Option.filter_some]
      · simp [howner, hregion]
    · simp [hid, h.owner id, Ne.symm hid, Option.filter_some]
  · rw [UnitOfWork.setView, NameMap.get?_insert] at hv'
    rw [openLog_concat]
    split_ifs at hv' with hid
    · cases hv'
      rw [hregion]
      exact hv
    · have howner := h.owner id
      rw [hv', Option.map_some] at howner
      have hne : v'.region ≠ r := by
        rintro rfl
        exact hid (id_of_owner? howner.symm).symm
      rw [UnitCall.extend_of_ne hcall hne]
      exact h.buffers id v' hv'

/-- A call about an object under the id of another one counts for nothing. -/
theorem of_stranger (h : u.Reflects calls) (hcall : call.region? = some r)
    (howner : owner? calls r.id = some r') (hne : r ≠ r') : u.Reflects (calls ++ [call]) := by
  have hsame : ∀ id, owner? (calls ++ [call]) id = owner? calls id := by
    intro id
    rw [owner?_concat, hcall]
    by_cases hid : r.id = id
    · subst hid
      rw [howner]
      rfl
    · simp [hid, Option.filter_some]
  refine ⟨fun id => (h.owner id).trans (hsame id).symm, fun id v hv => ?_⟩
  have hview := h.owner id
  rw [hv, Option.map_some] at hview
  have hne' : v.region ≠ r := by
    rintro rfl
    rw [id_of_owner? hview.symm, ← hview] at howner
    exact hne (Option.some.inj howner)
  rw [openLog_concat, UnitCall.extend_of_ne hcall hne']
  exact h.buffers id v hv

theorem drained (h : u.Reflects calls) (d : Drain) : (u.drained d).Reflects calls := by
  refine ⟨fun id => ?_, fun id v hv => ?_⟩
  · rw [UnitOfWork.drained, NameMap.get?_map, Option.map_map]
    exact h.owner id
  · rw [UnitOfWork.drained, NameMap.get?_map, Option.map_eq_some_iff] at hv
    obtain ⟨v', hv', rfl⟩ := hv
    exact (h.buffers id v' hv').drained d

/-- A commit or a rollback starts the logs of all regions anew. -/
theorem rollbackAll (h : u.Reflects calls) (hcall : call.region? = none) :
    u.rollbackAll.Reflects (calls ++ [call]) := by
  refine ⟨fun id => ?_, fun id v hv => ?_⟩
  · rw [owner?_concat, hcall, UnitOfWork.rollbackAll, NameMap.get?_map, Option.map_map]
    exact (h.owner id).trans (Option.or_none).symm
  · rw [UnitOfWork.rollbackAll, NameMap.get?_map, Option.map_eq_some_iff] at hv
    obtain ⟨v', _, rfl⟩ := hv
    rw [openLog_concat, UnitCall.extend_of_region?_none hcall]
    exact .reset v'

end UnitOfWork.Reflects

/-! ## Apply calls of a commit -/

/-- The batches of views with staged work, in the order of the views. -/
def batchesOf (views : List (String × Staged)) : List Application :=
  (views.filter fun e => e.2.isDirty).map fun e => (e.2.region, e.2.batch)

section PublishBy

variable {σ : Type} (apply : σ → RegionRef → CommitBatch → Except Error Unit × σ)

/-- Publishes a view by any way of applying batches. -/
def Staged.publishBy (v : Staged) (s : σ) : Except Error Unit × σ :=
  if v.batch.isEmpty then (.ok (), s) else apply s v.region v.batch

def UnitOfWork.publishAllBy : List (String × Staged) → σ → List RegionFailure × σ
  | [], s => ([], s)
  | (id, v) :: rest, s =>
    match v.publishBy apply s with
    | (.ok (), s) => publishAllBy rest s
    | (.error e, s) =>
      let (failures, s) := publishAllBy rest s
      (⟨id, e.message⟩ :: failures, s)

end PublishBy

/-- Applies a batch to a store and notes the call down. -/
def RegionStore.applyNoted (s : RegionStore × List Application) (r : RegionRef)
    (batch : CommitBatch) : Except Error Unit × RegionStore × List Application :=
  ((s.1.apply r batch).1, (s.1.apply r batch).2, s.2 ++ [(r, batch)])

namespace UnitOfWork

variable {views : List (String × Staged)}

/-- Noting the calls down changes nothing else. -/
theorem publishAll_eq_noted (views : List (String × Staged)) (store : RegionStore)
    (noted : List Application) :
    publishAll views store = ((publishAllBy RegionStore.applyNoted views (store, noted)).1,
      (publishAllBy RegionStore.applyNoted views (store, noted)).2.1) := by
  induction views generalizing store noted with
  | nil => rfl
  | cons e rest ih =>
    rw [publishAll, publishAllBy, Staged.publish, Staged.publishBy]
    cases e.2.batch.isEmpty with
    | true => exact ih store noted
    | false =>
      rw [if_neg Bool.false_ne_true, if_neg Bool.false_ne_true, RegionStore.applyNoted]
      generalize store.apply e.2.region e.2.batch = applied
      obtain ⟨result, store'⟩ := applied
      cases result with
      | ok _ => exact ih store' _
      | error error => simp only [ih store' (noted ++ [(e.2.region, e.2.batch)])]

/-- Every view with staged work makes one apply call, and no other is made. -/
theorem publishAllBy_applyNoted (hids : ∀ e ∈ views, e.2.region.id = e.1) (store : RegionStore)
    (noted : List Application) :
    publishAllBy RegionStore.applyNoted views (store, noted) =
      (store.failures (batchesOf views), store.applyAll (batchesOf views),
        noted ++ batchesOf views) := by
  induction views generalizing store noted with
  | nil => simp [publishAllBy, batchesOf, RegionStore.failures, RegionStore.applyAll]
  | cons e rest ih =>
    obtain ⟨hid, hrest⟩ := List.forall_mem_cons.1 hids
    rw [publishAllBy, Staged.publishBy, e.2.batch_isEmpty]
    cases hdirty : e.2.isDirty with
    | false =>
      have hbatches : batchesOf (e :: rest) = batchesOf rest := by simp [batchesOf, hdirty]
      rw [hbatches]
      exact ih hrest store noted
    | true =>
      have hbatches : batchesOf (e :: rest) = (e.2.region, e.2.batch) :: batchesOf rest := by
        simp [batchesOf, hdirty]
      have hfailures := (store.sameLayout_apply e.2.region e.2.batch).failures (batchesOf rest)
      rw [hbatches, RegionStore.applyAll_cons, RegionStore.failures_cons, ← hfailures]
      simp only [Bool.not_true, Bool.false_eq_true, if_false, RegionStore.applyNoted]
      generalize store.apply e.2.region e.2.batch = applied
      obtain ⟨result, store'⟩ := applied
      cases result with
      | ok _ => simp [ih hrest]
      | error error => simp [ih hrest, hid]

end UnitOfWork

/-! ## Settled units of work -/

theorem Staged.drained_reset (v : Staged) (d : Drain) : v.reset.drained d = v.reset := by
  have hentries : d.order v.reset.region.id v.reset.staged.entries = [] :=
    List.Perm.eq_nil (d.perm v.reset.region.id v.reset.staged.entries)
  have hstaged : (v.reset.drained d).staged = .empty :=
    Table.eq_empty_of_size_eq_zero (congrArg List.length hentries)
  exact congrArg (fun staged => ({ v.reset with staged } : Staged)) hstaged

namespace UnitOfWork

theorem entries_rollbackAll (u : UnitOfWork) :
    u.rollbackAll.views.entries = u.views.entries.map fun e => (e.1, e.2.reset) :=
  rfl

theorem isDirty_rollbackAll (u : UnitOfWork) : u.rollbackAll.isDirty = false := by
  rw [isDirty, entries_rollbackAll, List.any_map]
  simp [Function.comp_def]

theorem batchesOf_rollbackAll (u : UnitOfWork) : batchesOf u.rollbackAll.views.entries = [] := by
  rw [batchesOf, entries_rollbackAll, List.filter_map]
  simp [Function.comp_def]

theorem eq_of_entries {u u' : UnitOfWork} (h : u.views.entries = u'.views.entries) : u = u' := by
  obtain ⟨entries, _⟩ := u
  obtain ⟨entries', _⟩ := u'
  obtain rfl : entries = entries' := h
  rfl

theorem rollbackAll_rollbackAll (u : UnitOfWork) : u.rollbackAll.rollbackAll = u.rollbackAll := by
  apply eq_of_entries
  simp only [entries_rollbackAll, List.map_map]
  rfl

theorem drained_rollbackAll (u : UnitOfWork) (d : Drain) :
    u.rollbackAll.drained d = u.rollbackAll := by
  apply eq_of_entries
  have hentries : (u.rollbackAll.drained d).views.entries =
      u.rollbackAll.views.entries.map fun e => (e.1, e.2.drained d) := rfl
  rw [hentries, entries_rollbackAll, List.map_map]
  simp only [Function.comp_def, Staged.drained_reset]

end UnitOfWork

/-! ## One unit among others -/

deriving instance DecidableEq for UnitReply

/-- The answer of a commit to what the regions report. -/
def UnitReply.ofFailures : List RegionFailure → UnitReply
  | [] => .done
  | first :: rest => .refused (.transaction (.regions "commit" (first :: rest)))

/-- A workspace after calls of one of its units. Whatever happens in between, the calls of other
units included, leaves this unit alone and may do anything to the store. -/
inductive Workspace.Reached (m : Nat) : List UnitCall → Workspace → Prop where
  | fresh (store : RegionStore) : Reached m [] (.fresh store)
  | call {calls : List UnitCall} {w : Workspace} (call : UnitCall) (h : Reached m calls w) :
    Reached m (calls ++ [call]) (w.step m call).2
  | meanwhile {calls : List UnitCall} {w w' : Workspace} (h : Reached m calls w)
    (hunit : w'.units m = w.units m) : Reached m calls w'

namespace Workspace

variable {w : Workspace} {m : Nat}

@[simp] theorem units_next (w : Workspace) (m : Nat) (u : UnitOfWork) (store : RegionStore) :
    (w.next m u store).units m = u := by
  simp [next]

theorem next_self (w : Workspace) (m : Nat) : w.next m (w.units m) w.store = w := by
  unfold next
  rw [Function.update_eq_self]

/-- A call that is turned away leaves everything as it is. -/
theorem step_of_view?_error {e : Error} (hcall : call.region? = some r)
    (h : (w.units m).view? r = .error e) : w.step m call = (.refused e, w) := by
  cases call with
  | get r' key =>
    cases hcall
    simp [step, UnitOfWork.get, h, next_self]
  | put r' key rows =>
    cases hcall
    simp [step, UnitOfWork.put, h, Except.map]
  | clear r' =>
    cases hcall
    simp [step, UnitOfWork.clear, h, Except.map]
  | commitAll drain => cases hcall
  | rollbackAll => cases hcall

/-- A call that is let in changes the view of its region, and leaves the entries of all regions
alone. -/
theorem step_of_view?_ok {v : Staged} {log : List Write} (hcall : call.region? = some r)
    (h : (w.units m).view? r = .ok v) (hregion : v.region = r) (hv : v.Buffers log) :
    (∀ id, (w.step m call).1 ≠ .refused (.cache (.duplicateRegion id))) ∧
      (w.step m call).2.store.SameEntries w.store ∧
      ∃ v', (w.step m call).2.units m = (w.units m).setView r v' ∧ v'.region = r ∧
        v'.Buffers (call.extend r log) := by
  cases call with
  | get r' key =>
    cases hcall
    have hsame := v.sameEntries_get w.store key
    have herror := v.error_of_get w.store key
    have hget : (w.units m).get w.store r key =
        ((v.get w.store key).1, (w.units m).setView r v, (v.get w.store key).2) := by
      rw [UnitOfWork.get, h]
    rw [step, hget]
    generalize v.get w.store key = found at hsame herror
    obtain ⟨answer, store⟩ := found
    cases answer with
    | ok answer => exact ⟨by rintro _ ⟨⟩, hsame, v, units_next _ _ _ _, hregion, hv⟩
    | error e =>
      obtain ⟨reason, rfl⟩ := herror e rfl
      exact ⟨by rintro _ ⟨⟩, hsame, v, units_next _ _ _ _, hregion, hv⟩
  | put r' key rows =>
    cases hcall
    have hput : (w.units m).put r key rows = .ok ((w.units m).setView r (v.put key rows)) := by
      rw [UnitOfWork.put, h]
      rfl
    rw [step, hput]
    refine ⟨by rintro _ ⟨⟩, .refl _, v.put key rows, units_next _ _ _ _, hregion, ?_⟩
    rw [UnitCall.extend, if_pos rfl]
    exact hv.put key rows
  | clear r' =>
    cases hcall
    have hclear : (w.units m).clear r = .ok ((w.units m).setView r v.clear) := by
      rw [UnitOfWork.clear, h]
      rfl
    rw [step, hclear]
    refine ⟨by rintro _ ⟨⟩, .refl _, v.clear, units_next _ _ _ _, hregion, ?_⟩
    rw [UnitCall.extend, if_pos rfl]
    exact .clear v log
  | commitAll drain => cases hcall
  | rollbackAll => cases hcall

end Workspace

namespace UnitOfWork.Reflects

variable {u : UnitOfWork} {w : Workspace} {m : Nat}

theorem view?_of_known (h : u.Reflects calls)
    (hknown : owner? calls r.id = none ∨ owner? calls r.id = some r) :
    ∃ v, u.view? r = .ok v ∧ v.region = r ∧ v.Buffers (openLog calls r) :=
  hknown.elim h.view?_of_new h.view?_of_owner

theorem id_of_entry (h : u.Reflects calls) : ∀ e ∈ u.views.entries, e.2.region.id = e.1 := by
  intro e he
  have howner := h.owner e.1
  rw [(NameMap.get?_eq_some_iff u.views).2 he, Option.map_some] at howner
  exact id_of_owner? howner.symm

end UnitOfWork.Reflects

namespace Workspace.Reached

variable {w : Workspace} {m : Nat}

/-- What a unit of work tracks and buffers comes from its own calls alone. -/
theorem reflects (h : Reached m calls w) : (w.units m).Reflects calls := by
  induction h with
  | fresh store => exact .empty
  | meanwhile _ hunit ih =>
    rw [hunit]
    exact ih
  | @call calls w call _ ih =>
    cases hcall : call.region? with
    | none =>
      cases call with
      | commitAll drain =>
        have hstep : (w.step m (.commitAll drain)).2.units m =
            ((w.units m).drained drain).rollbackAll := by
          have hcommit := UnitOfWork.commitAll_snd ((w.units m).drained drain) w.store
          rw [step]
          generalize ((w.units m).drained drain).commitAll w.store = committed at hcommit
          obtain ⟨result, u, store⟩ := committed
          cases hcommit
          cases result <;> exact units_next _ _ _ _
        rw [hstep]
        exact (ih.drained drain).rollbackAll rfl
      | rollbackAll =>
        rw [step, units_next]
        exact ih.rollbackAll rfl
      | get _ _ => cases hcall
      | put _ _ _ => cases hcall
      | clear _ => cases hcall
    | some r =>
      rcases known_or_stranger calls r with hknown | ⟨owner, howner, hne⟩
      · obtain ⟨v, hview, hregion, hv⟩ := ih.view?_of_known hknown
        obtain ⟨_, _, v', hstep, hregion', hv'⟩ := step_of_view?_ok hcall hview hregion hv
        rw [hstep]
        exact ih.setView hcall hknown hregion' hv'
      · rw [step_of_view?_error hcall (ih.view?_of_stranger howner hne)]
        exact ih.of_stranger hcall howner hne

end Workspace.Reached

/-! ## Own batches -/

/-- The batches that are due to regions after calls: the open log of each tracked region that has
one, in the order of the ids. -/
structure DueBatches (calls : List UnitCall) (batches : List Application) : Prop where
  ascending : batches.Pairwise fun a b => a.1.id < b.1.id
  mem_iff : ∀ r, (∃ batch, (r, batch) ∈ batches) ↔
    owner? calls r.id = some r ∧ openLog calls r ≠ []
  distinct : ∀ e ∈ batches, (e.2.entries.map Prod.fst).Nodup
  overlay_eq : ∀ e ∈ batches, ∀ base, e.2.overlay base = replay (openLog calls e.1) base

theorem UnitOfWork.Reflects.dueBatches {u : UnitOfWork} (h : u.Reflects calls) :
    DueBatches calls (batchesOf u.views.entries) where
  ascending := by
    rw [batchesOf, List.pairwise_map]
    refine (u.views.ascending.sublist List.filter_sublist).imp_of_mem fun {a b} ha hb hlt => ?_
    have hid := h.id_of_entry a (List.mem_filter.1 ha).1
    have hid' := h.id_of_entry b (List.mem_filter.1 hb).1
    exact hid.symm ▸ hid'.symm ▸ hlt
  mem_iff r := by
    constructor
    · rintro ⟨batch, hmem⟩
      obtain ⟨e, he, heq⟩ := List.mem_map.1 hmem
      obtain rfl : e.2.region = r := congrArg Prod.fst heq
      obtain ⟨hentry, hdirty⟩ := List.mem_filter.1 he
      have hget := (NameMap.get?_eq_some_iff u.views).2 hentry
      have howner := h.owner e.1
      rw [hget, Option.map_some, ← h.id_of_entry e hentry] at howner
      exact ⟨howner.symm, (h.buffers e.1 e.2 hget).isDirty_iff.1 hdirty⟩
    · rintro ⟨howner, hlog⟩
      have hview := h.owner r.id
      rw [howner, Option.map_eq_some_iff] at hview
      obtain ⟨v, hv, rfl⟩ := hview
      have hdirty := (h.buffers _ v hv).isDirty_iff.2 hlog
      exact ⟨v.batch, List.mem_map.2 ⟨_, List.mem_filter.2
        ⟨(NameMap.get?_eq_some_iff u.views).1 hv, hdirty⟩, rfl⟩⟩
  distinct e he := by
    obtain ⟨view, _, rfl⟩ := List.mem_map.1 he
    exact view.2.staged.distinct
  overlay_eq e he base := by
    obtain ⟨view, hview, rfl⟩ := List.mem_map.1 he
    have hget := (NameMap.get?_eq_some_iff u.views).2 (List.mem_filter.1 hview).1
    exact (h.buffers _ _ hget).overlay_eq base

/-- An object that is a region has one id. -/
def OneIdEach (calls : List UnitCall) : Prop :=
  ∀ r ∈ usedRegions calls, ∀ r' ∈ usedRegions calls, r.slot = r'.slot → r = r'

instance (calls : List UnitCall) : Decidable (OneIdEach calls) :=
  inferInstanceAs (Decidable (∀ r ∈ usedRegions calls, ∀ r' ∈ usedRegions calls, _))

theorem DueBatches.pairwise_slots {batches : List Application} (h : DueBatches calls batches)
    (hobjects : OneIdEach calls) : batches.Pairwise fun a b => a.1.slot ≠ b.1.slot := by
  refine h.ascending.imp_of_mem fun {a b} ha hb hlt hslot => ?_
  have hused : ∀ e ∈ batches, e.1 ∈ usedRegions calls := fun e he =>
    mem_of_owner? ((h.mem_iff e.1).1 ⟨e.2, he⟩).1
  rw [hobjects a.1 (hused a ha) b.1 (hused b hb) hslot] at hlt
  exact String.lt_irrefl _ hlt

/-! ## Every commit delivers what is due -/

/-- A commit of a unit hands batches to their regions, one apply call for each. -/
structure Workspace.Delivers (w : Workspace) (m : Nat) (drain : Drain)
    (batches : List Application) : Prop where
  /-- The apply calls are noted down as they are made. -/
  noted : UnitOfWork.publishAllBy RegionStore.applyNoted
    ((w.units m).drained drain).views.entries (w.store, []) =
      (w.store.failures batches, w.store.applyAll batches, batches)
  answer_eq : (w.step m (.commitAll drain)).1 = .ofFailures (w.store.failures batches)
  store_eq : (w.step m (.commitAll drain)).2.store = w.store.applyAll batches
  region_eq : ∀ e ∈ batches, (w.step m (.commitAll drain)).2.store.region e.1 =
    (w.store.apply e.1 e.2).2.region e.1
  /-- A region takes its batch or keeps what it has, unless another one shares its storage. -/
  storage_eq : ∀ e ∈ batches,
    (∀ e' ∈ batches, e'.1.slot ≠ e.1.slot → ¬ w.store.Shares e'.1 e.1) →
      (w.store.Accepts e.1 e.2 → e.1.slot < w.store.regions.length →
        (w.store.storage e.1).applyBatch e.2 =
          .ok ((w.step m (.commitAll drain)).2.store.storage e.1)) ∧
      (¬ w.store.Accepts e.1 e.2 →
        (w.step m (.commitAll drain)).2.store.storage e.1 = w.store.storage e.1)
  region_other : ∀ r, (∀ e ∈ batches, e.1.slot ≠ r.slot) →
    (w.step m (.commitAll drain)).2.store.region r = w.store.region r
  storage_other : ∀ r, (∀ e ∈ batches, ¬ w.store.Shares e.1 r) →
    (w.step m (.commitAll drain)).2.store.storage r = w.store.storage r
  settled : ((w.step m (.commitAll drain)).2.units m).isDirty = false
  /-- A commit right after it is answered, and nothing happens. -/
  again : ∀ drain', (w.step m (.commitAll drain)).2.step m (.commitAll drain') =
    (.done, (w.step m (.commitAll drain)).2)

/-- A unit of work keeps the work for a region from every other one. -/
structure Workspace.KeepsToOwners (w : Workspace) (m : Nat) (calls : List UnitCall) : Prop where
  refused_iff : ∀ call r, call.region? = some r →
    ((w.step m call).1 = .refused (.cache (.duplicateRegion r.id)) ↔
      ∃ owner, owner? calls r.id = some owner ∧ r ≠ owner)
  unchanged : ∀ call r owner, call.region? = some r → owner? calls r.id = some owner → r ≠ owner →
    (w.step m call).2 = w
  sameEntries : ∀ call, call.isCommit = false → (w.step m call).2.store.SameEntries w.store
  commit : ∀ drain, ∃ batches, DueBatches calls batches ∧ w.Delivers m drain batches

namespace Workspace

variable {w : Workspace} {m : Nat}

/-- A commit hands over one batch for each view with staged work. -/
theorem commitAll_step_eq (h : (w.units m).Reflects calls) (drain : Drain) :
    w.step m (.commitAll drain) =
      (.ofFailures (w.store.failures (batchesOf ((w.units m).drained drain).views.entries)),
        w.next m ((w.units m).drained drain).rollbackAll
          (w.store.applyAll (batchesOf ((w.units m).drained drain).views.entries))) := by
  have hids := (h.drained drain).id_of_entry
  rw [step, UnitOfWork.commitAll, UnitOfWork.publishAll_eq_noted _ _ [],
    UnitOfWork.publishAllBy_applyNoted hids]
  cases w.store.failures (batchesOf ((w.units m).drained drain).views.entries) <;> rfl

/-- A commit with nothing staged is answered, and nothing happens. -/
theorem commitAll_step_of_settled {u : UnitOfWork} (hreflects : (w.units m).Reflects calls)
    (hunit : w.units m = u.rollbackAll) (drain : Drain) :
    w.step m (.commitAll drain) = (.done, w) := by
  have hdrained : (w.units m).drained drain = w.units m := by
    rw [hunit, UnitOfWork.drained_rollbackAll]
  have hbatches : batchesOf (w.units m).views.entries = [] := by
    rw [hunit, UnitOfWork.batchesOf_rollbackAll]
  have hrolled : (w.units m).rollbackAll = w.units m := by
    rw [hunit, UnitOfWork.rollbackAll_rollbackAll]
  rw [commitAll_step_eq hreflects, hdrained, hbatches, hrolled]
  exact congrArg (Prod.mk UnitReply.done) (next_self w m)

theorem delivers (h : (w.units m).Reflects calls) (hobjects : OneIdEach calls) (drain : Drain) :
    w.Delivers m drain (batchesOf ((w.units m).drained drain).views.entries) := by
  have hdrained := h.drained drain
  have hslots := hdrained.dueBatches.pairwise_slots hobjects
  have hstep := commitAll_step_eq h drain
  have hstore : (w.step m (.commitAll drain)).2.store =
      w.store.applyAll (batchesOf ((w.units m).drained drain).views.entries) := by
    rw [hstep]
    rfl
  have hunit : (w.step m (.commitAll drain)).2.units m =
      ((w.units m).drained drain).rollbackAll := by
    rw [hstep, units_next]
  refine ⟨UnitOfWork.publishAllBy_applyNoted hdrained.id_of_entry w.store [], by rw [hstep],
    hstore, ?_, ?_, ?_, ?_, ?_, ?_⟩
  · intro e he
    rw [hstore, RegionStore.region_applyAll hslots he]
  · intro e he halone
    rw [hstore, RegionStore.storage_applyAll hslots he halone]
    refine ⟨RegionStore.applyBatch_eq_storage_apply, fun hrefuses => ?_⟩
    rw [RegionStore.apply_of_not_accepts hrefuses]
  · intro r hr
    rw [hstore, RegionStore.region_applyAll_of_slot_ne hr]
  · intro r hr
    rw [hstore, RegionStore.storage_applyAll_of_not_shares hr]
  · rw [hunit, UnitOfWork.isDirty_rollbackAll]
  · have hafter : ((w.step m (.commitAll drain)).2.units m).Reflects
        (calls ++ [.commitAll drain]) := hunit ▸ hdrained.rollbackAll rfl
    exact commitAll_step_of_settled hafter hunit

/-- Work that is staged for a region reaches this very region, and every commit attempts each
region with staged work once: over any regions, whether or not some share an id or refuse their
batches, and whatever happens between the calls of the unit. -/
theorem work_reaches_its_owner (hreached : Reached m calls w) (hobjects : OneIdEach calls) :
    w.KeepsToOwners m calls := by
  have hreflects := hreached.reflects
  refine ⟨fun call r hcall => ?_, fun call r owner hcall howner hne => ?_, fun call hcommit => ?_,
    fun drain => ⟨_, (hreflects.drained drain).dueBatches, delivers hreflects hobjects drain⟩⟩
  · constructor
    · intro hrefused
      rcases known_or_stranger calls r with hknown | hstranger
      · obtain ⟨v, hview, hregion, hv⟩ := hreflects.view?_of_known hknown
        exact absurd hrefused ((step_of_view?_ok hcall hview hregion hv).1 r.id)
      · exact hstranger
    · rintro ⟨owner, howner, hne⟩
      rw [step_of_view?_error hcall (hreflects.view?_of_stranger howner hne)]
  · rw [step_of_view?_error hcall (hreflects.view?_of_stranger howner hne)]
  · cases hcall : call.region? with
    | none =>
      cases call with
      | commitAll drain => cases hcommit
      | rollbackAll => exact .refl w.store
      | get _ _ => cases hcall
      | put _ _ _ => cases hcall
      | clear _ => cases hcall
    | some r =>
      rcases known_or_stranger calls r with hknown | ⟨owner, howner, hne⟩
      · obtain ⟨v, hview, hregion, hv⟩ := hreflects.view?_of_known hknown
        exact (step_of_view?_ok hcall hview hregion hv).2.1
      · rw [step_of_view?_error hcall (hreflects.view?_of_stranger howner hne)]
        exact .refl w.store

/-- One unit clears a region that refuses its batches and stages rows for another one, whose id a
third region bears too. -/
theorem namesake_gets_nothing :
    let users : RegionRef := ⟨0, "users"⟩
    let namesake : RegionRef := ⟨1, "users"⟩
    let orders : RegionRef := ⟨2, "orders"⟩
    let opened := ((RegionStore.empty.openMemory "users").2.openMemory "users").2
    let store := (opened.openMemory "orders").2.setRefusing orders [.apply]
    let key := CacheKey.ofComponents [.int 1]
    let calls : List UnitCall :=
      [.put users key [.null], .put namesake key [.int 1], .clear orders]
    let w := (fresh store).after (calls.map fun call => (0, call))
    let committed := w.step 0 (.commitAll .inOrder)
    Reached 0 calls w ∧ OneIdEach calls ∧ w.KeepsToOwners 0 calls ∧
      committed.1 = .ofFailures
        [⟨"orders", "Cache error: Cache region orders failed: apply refused"⟩] ∧
      committed.2.store.contents users key = some [.null] ∧
      committed.2.store.contents namesake key = none := by
  intro users namesake orders opened store key calls w committed
  have hreached : Reached 0 calls w :=
    .call (.clear orders) (.call (.put namesake key [.int 1])
      (.call (.put users key [.null]) (.fresh store)))
  have hobjects : OneIdEach calls := by decide
  exact ⟨hreached, hobjects, work_reaches_its_owner hreached hobjects, by decide +kernel,
    by decide +kernel, by decide +kernel⟩

end Workspace

end DataMapper
