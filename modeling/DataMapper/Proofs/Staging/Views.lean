import DataMapper.Proofs.Region.Contents
import DataMapper.Staging.UnitOfWork
/-!
# Staged views

What a unit of work sees of a region is its own work laid over the contents of the region. Each call
of a unit of work changes one view, and a commit makes the contents of every region what the unit of
work saw of it.
-/

namespace DataMapper

/-! ## One region -/

namespace Staged

/-- Contents as the unit of work sees them. -/
def overlay (v : Staged) (base : Contents) : Contents :=
  v.batch.overlay base

theorem overlay_apply (v : Staged) (base : Contents) (key : CacheKey) :
    v.overlay base key = (v.staged.get? key).or (if v.clearOnCommit then none else base key) :=
  rfl

@[simp] theorem overlay_fresh (r : RegionRef) (base : Contents) :
    ({ region := r } : Staged).overlay base = base := by
  funext key
  simp [overlay_apply]

theorem overlay_put (v : Staged) (key : CacheKey) (rows : Rows) (base : Contents) :
    (v.put key rows).overlay base = fun k => if k = key then some rows else v.overlay base k := by
  funext k
  simp only [overlay_apply, put, Table.get?_insert]
  split <;> simp

@[simp] theorem overlay_clear (v : Staged) (base : Contents) :
    v.clear.overlay base = fun _ => none := by
  funext key
  simp [overlay_apply, clear]

@[simp] theorem overlay_reset (v : Staged) (base : Contents) : v.reset.overlay base = base := by
  funext key
  simp [overlay_apply, reset]

theorem isDirty_eq_false_iff (v : Staged) :
    v.isDirty = false ↔ v.clearOnCommit = false ∧ ∀ key, v.staged.get? key = none := by
  rw [isDirty, Bool.or_eq_false_iff, Bool.not_eq_false', Table.isEmpty_eq_true_iff]

@[simp] theorem isDirty_put (v : Staged) (key : CacheKey) (rows : Rows) :
    (v.put key rows).isDirty = true := by
  simp [isDirty, put]

@[simp] theorem isDirty_clear (v : Staged) : v.clear.isDirty = true := by
  simp [isDirty, clear]

@[simp] theorem isDirty_reset (v : Staged) : v.reset.isDirty = false := by
  rw [isDirty_eq_false_iff]
  simp [reset]

theorem overlay_of_not_dirty {v : Staged} (h : v.isDirty = false) (base : Contents) :
    v.overlay base = base := by
  rw [isDirty_eq_false_iff] at h
  funext key
  simp [overlay_apply, h.1, h.2 key]

theorem batch_isEmpty (v : Staged) : v.batch.isEmpty = !v.isDirty := by
  simp [CommitBatch.isEmpty, batch, isDirty, Table.isEmpty]

theorem get_eq (v : Staged) {store : RegionStore} (h : store.InMemory v.region) (key : CacheKey) :
    (v.get store key).1 = .ok (.ofOption (v.overlay (store.contents v.region) key)) := by
  rw [overlay_apply, get]
  cases v.staged.get? key with
  | some rows => rfl
  | none =>
    cases v.clearOnCommit with
    | true => rfl
    | false => simpa using h.get_eq key

theorem sameEntries_get (v : Staged) (store : RegionStore) (key : CacheKey) :
    (v.get store key).2.SameEntries store := by
  unfold get
  split
  · exact .refl store
  · split
    · exact .refl store
    · exact .get_left store v.region key

/-- A region in memory becomes what the unit of work saw of it, and no other region notices. -/
theorem publish_eq (v : Staged) {store : RegionStore} (h : store.InMemory v.region) :
    ∃ store', v.publish store = (.ok (), store') ∧
      store'.contents v.region = v.overlay (store.contents v.region) ∧
      (∀ r, r.slot ≠ v.region.slot → store'.contents r = store.contents r) ∧
      ∀ r, store.InMemory r → store'.InMemory r := by
  cases hdirty : v.isDirty with
  | false =>
    refine ⟨store, ?_, (overlay_of_not_dirty hdirty _).symm, fun _ _ => rfl, fun _ h' => h'⟩
    simp [publish, batch_isEmpty, hdirty]
  | true =>
    have hkeys : (v.batch.entries.map Prod.fst).Nodup := v.staged.distinct
    obtain ⟨store', happly, hrest⟩ := h.apply_eq hkeys
    refine ⟨store', ?_, hrest⟩
    simp [publish, batch_isEmpty, hdirty, happly]

end Staged

/-! ## All regions -/

/-- References to distinct regions differ in the id and in the place. -/
structure Separate (regions : List RegionRef) : Prop where
  ids : ∀ r ∈ regions, ∀ r' ∈ regions, r.id = r'.id → r = r'
  slots : ∀ r ∈ regions, ∀ r' ∈ regions, r.slot = r'.slot → r = r'

theorem separate_singleton (r : RegionRef) : Separate [r] := by
  refine ⟨?_, ?_⟩
  · intro a ha b hb _
    rw [List.mem_singleton.1 ha, List.mem_singleton.1 hb]
  · intro a ha b hb _
    rw [List.mem_singleton.1 ha, List.mem_singleton.1 hb]

namespace UnitOfWork

variable {u u' : UnitOfWork} {regions : List RegionRef} {store : RegionStore} {r : RegionRef}

/-- The view of a region, fresh if there is none. -/
def viewOf (u : UnitOfWork) (r : RegionRef) : Staged :=
  (u.views.get? r.id).getD { region := r }

/-- Changes the view of one region. -/
def modify (u : UnitOfWork) (r : RegionRef) (f : Staged → Staged) : UnitOfWork :=
  u.setView r (f (u.viewOf r))

/-- A region as the unit of work sees it. -/
def overlay (u : UnitOfWork) (r : RegionRef) (base : Contents) : Contents :=
  (u.viewOf r).overlay base

/-- Every view is that of one of the regions, under the id of this region. -/
def Within (u : UnitOfWork) (regions : List RegionRef) : Prop :=
  ∀ id v, u.views.get? id = some v → v.region ∈ regions ∧ v.region.id = id

@[simp] theorem viewOf_empty (r : RegionRef) : empty.viewOf r = { region := r } :=
  rfl

theorem viewOf_modify (u : UnitOfWork) (r r' : RegionRef) (f : Staged → Staged) :
    (u.modify r f).viewOf r' = if r'.id = r.id then f (u.viewOf r) else u.viewOf r' := by
  unfold modify setView viewOf
  rw [NameMap.get?_insert]
  split <;> rfl

@[simp] theorem viewOf_modify_self (u : UnitOfWork) (r : RegionRef) (f : Staged → Staged) :
    (u.modify r f).viewOf r = f (u.viewOf r) := by
  rw [viewOf_modify, if_pos rfl]

theorem viewOf_rollbackAll (u : UnitOfWork) (r : RegionRef) :
    u.rollbackAll.viewOf r = (u.viewOf r).reset := by
  unfold rollbackAll viewOf
  rw [NameMap.get?_map]
  cases u.views.get? r.id <;> rfl

theorem slot_of_view? {v : Staged} (h : u.view? r = .ok v) : v.region.slot = r.slot := by
  unfold view? at h
  split at h
  · rw [← Except.ok.inj h]
  · split_ifs at h with hbacked
    exact Except.ok.inj h ▸ of_decide_eq_true hbacked

theorem viewOf_of_view? {v : Staged} (h : u.view? r = .ok v) : u.viewOf r = v := by
  unfold view? at h
  unfold viewOf
  split at h
  · rename_i hview
    rw [hview, ← Except.ok.inj h]
    rfl
  · rename_i hview
    split_ifs at h
    rw [hview, ← Except.ok.inj h]
    rfl

theorem exists_of_modified {f : Staged → Staged}
    (h : (u.view? r).map (fun v => u.setView r (f v)) = .ok u') :
    ∃ v, u.view? r = .ok v ∧ u' = u.setView r (f v) := by
  cases hview : u.view? r with
  | error e =>
    rw [hview] at h
    cases h
  | ok v =>
    rw [hview] at h
    exact ⟨v, rfl, (Except.ok.inj h).symm⟩

theorem within_empty (regions : List RegionRef) : empty.Within regions :=
  fun id _ h => by simp [empty] at h

theorem Within.region_viewOf (h : u.Within regions) (hsep : Separate regions) (hr : r ∈ regions) :
    (u.viewOf r).region = r := by
  unfold viewOf
  cases hv : u.views.get? r.id with
  | none => rfl
  | some v =>
    obtain ⟨hmem, hid⟩ := h r.id v hv
    exact hsep.ids v.region hmem r hr hid

theorem Within.view?_eq (h : u.Within regions) (hsep : Separate regions) (hr : r ∈ regions) :
    u.view? r = .ok (u.viewOf r) := by
  have hregion := h.region_viewOf hsep hr
  unfold viewOf at hregion
  unfold view? viewOf
  cases hv : u.views.get? r.id with
  | none => rfl
  | some v =>
    rw [hv, Option.getD_some] at hregion
    simp [Staged.isBackedBy, hregion]

theorem Within.modify (h : u.Within regions) (hsep : Separate regions) (hr : r ∈ regions)
    {f : Staged → Staged} (hf : ∀ v, (f v).region = v.region) : (u.modify r f).Within regions := by
  intro id v hv
  unfold UnitOfWork.modify setView at hv
  rw [NameMap.get?_insert] at hv
  split at hv
  · rename_i hid
    cases hv
    rw [hf, h.region_viewOf hsep hr]
    exact ⟨hr, hid.symm⟩
  · exact h id v hv

theorem Within.rollbackAll (h : u.Within regions) : u.rollbackAll.Within regions := by
  intro id v hv
  unfold UnitOfWork.rollbackAll at hv
  rw [NameMap.get?_map] at hv
  obtain ⟨w, hw, rfl⟩ := Option.map_eq_some_iff.1 hv
  exact h id w hw

/-! ## The calls of a unit of work -/

theorem Within.get_eq (h : u.Within regions) (hsep : Separate regions) (hr : r ∈ regions)
    (hmem : store.InMemory r) (key : CacheKey) :
    ∃ store', u.get store r key =
        (.ok (.ofOption (u.overlay r (store.contents r) key)), u.modify r id, store') ∧
      store'.SameEntries store := by
  have hregion := h.region_viewOf hsep hr
  refine ⟨((u.viewOf r).get store key).2, ?_, Staged.sameEntries_get _ _ _⟩
  have hget := (u.viewOf r).get_eq (hregion ▸ hmem) key
  rw [hregion] at hget
  unfold get
  rw [h.view?_eq hsep hr]
  simp only [hget]
  rfl

theorem Within.put_eq (h : u.Within regions) (hsep : Separate regions) (hr : r ∈ regions)
    (key : CacheKey) (rows : Rows) :
    u.put r key rows = .ok (u.modify r fun v => v.put key rows) := by
  unfold put
  rw [h.view?_eq hsep hr]
  rfl

theorem Within.clear_eq (h : u.Within regions) (hsep : Separate regions) (hr : r ∈ regions) :
    u.clear r = .ok (u.modify r Staged.clear) := by
  unfold clear
  rw [h.view?_eq hsep hr]
  rfl

/-- Views of distinct regions are all published, and each of the regions becomes what its view
made of it. -/
theorem publishAll_eq {views : List (String × Staged)}
    (hslots : views.Pairwise fun a b => a.2.region.slot ≠ b.2.region.slot)
    (hmem : ∀ e ∈ views, store.InMemory e.2.region) :
    ∃ store', publishAll views store = ([], store') ∧
      (∀ e ∈ views, store'.contents e.2.region = e.2.overlay (store.contents e.2.region)) ∧
      (∀ r, (∀ e ∈ views, r.slot ≠ e.2.region.slot) → store'.contents r = store.contents r) ∧
      ∀ r, store.InMemory r → store'.InMemory r := by
  induction views generalizing store with
  | nil => exact ⟨store, rfl, fun e he => by simp at he, fun _ _ => rfl, fun _ h => h⟩
  | cons first rest ih =>
    obtain ⟨hfirst, hrest⟩ := List.pairwise_cons.1 hslots
    obtain ⟨store₁, hpublish, hself, hother, hkeep⟩ :=
      first.2.publish_eq (hmem first List.mem_cons_self)
    obtain ⟨store₂, hall, hselves, hothers, hkeeps⟩ :=
      ih hrest fun e he => hkeep _ (hmem e (List.mem_cons_of_mem _ he))
    refine ⟨store₂, ?_, ?_, ?_, fun r hr => hkeeps r (hkeep r hr)⟩
    · simp [publishAll, hpublish, hall]
    · intro e he
      rcases List.mem_cons.1 he with rfl | he
      · rw [hothers _ hfirst, hself]
      · rw [hselves e he, hother _ (hfirst e he).symm]
    · intro r hr
      rw [hothers r fun e he => hr e (List.mem_cons_of_mem _ he),
        hother r (hr first List.mem_cons_self)]

theorem Within.pairwise_slots (h : u.Within regions) (hsep : Separate regions) :
    u.views.entries.Pairwise fun a b => a.2.region.slot ≠ b.2.region.slot := by
  have hids : u.views.entries.Pairwise fun a b => a.1 ≠ b.1 :=
    List.pairwise_map.1 u.views.nodup_names
  refine hids.imp_of_mem fun {a b} ha hb hne hslot => hne ?_
  obtain ⟨hmema, hida⟩ := h a.1 a.2 ((NameMap.get?_eq_some_iff _).2 ha)
  obtain ⟨hmemb, hidb⟩ := h b.1 b.2 ((NameMap.get?_eq_some_iff _).2 hb)
  rw [← hida, ← hidb, hsep.slots _ hmema _ hmemb hslot]

theorem Within.viewOf_of_mem (h : u.Within regions) {e : String × Staged}
    (he : e ∈ u.views.entries) : e.2.region ∈ regions ∧ u.viewOf e.2.region = e.2 := by
  have hget : u.views.get? e.1 = some e.2 := (NameMap.get?_eq_some_iff _).2 he
  obtain ⟨hregion, hid⟩ := h e.1 e.2 hget
  exact ⟨hregion, by rw [viewOf, hid, hget, Option.getD_some]⟩

/-- A region without a view of its own is seen through a fresh one. -/
theorem Within.viewOf_of_not_mem (h : u.Within regions) (hsep : Separate regions)
    (hr : r ∈ regions) (hnone : ¬ ∃ e ∈ u.views.entries, e.2.region = r) :
    u.viewOf r = { region := r } := by
  unfold viewOf
  cases hv : u.views.get? r.id with
  | none => rfl
  | some v =>
    obtain ⟨hregion, hid⟩ := h r.id v hv
    exact absurd ⟨_, (NameMap.get?_eq_some_iff _).1 hv, hsep.ids _ hregion r hr hid⟩ hnone

theorem Within.isDirty_iff (h : u.Within regions) (hsep : Separate regions) :
    u.isDirty = true ↔ ∃ r ∈ regions, (u.viewOf r).isDirty = true := by
  rw [isDirty, List.any_eq_true]
  constructor
  · rintro ⟨e, he, hdirty⟩
    obtain ⟨hregion, hview⟩ := h.viewOf_of_mem he
    exact ⟨e.2.region, hregion, hview.symm ▸ hdirty⟩
  · rintro ⟨r, hr, hdirty⟩
    by_cases hmem : ∃ e ∈ u.views.entries, e.2.region = r
    · obtain ⟨e, he, rfl⟩ := hmem
      exact ⟨e, he, (h.viewOf_of_mem he).2 ▸ hdirty⟩
    · rw [h.viewOf_of_not_mem hsep hr hmem] at hdirty
      simp [Staged.isDirty, Table.isEmpty, Table.empty] at hdirty

/-- After some of the views were published, a region is what the unit of work saw of it or is still
what it was, and after all of them it is what the unit of work saw. -/
theorem Within.publishAll_eq (h : u.Within regions) (hsep : Separate regions)
    (hmem : ∀ r ∈ regions, store.InMemory r) {done rest : List (String × Staged)}
    (hviews : u.views.entries = done ++ rest) :
    ∃ store', publishAll done store = ([], store') ∧
      (∀ r ∈ regions, store'.contents r = u.overlay r (store.contents r) ∨
        rest ≠ [] ∧ store'.contents r = store.contents r) ∧
      ∀ r, store.InMemory r → store'.InMemory r := by
  have hslots := h.pairwise_slots hsep
  rw [hviews] at hslots
  have hview : ∀ e ∈ done, e.2.region ∈ regions ∧ u.viewOf e.2.region = e.2 :=
    fun e he => h.viewOf_of_mem (hviews ▸ List.mem_append_left rest he)
  obtain ⟨store', hall, hselves, hothers, hkeep⟩ :=
    UnitOfWork.publishAll_eq (List.pairwise_append.1 hslots).1 fun e he => hmem _ (hview e he).1
  refine ⟨store', hall, fun r hr => ?_, hkeep⟩
  by_cases hdone : ∃ e ∈ done, e.2.region = r
  · obtain ⟨e, he, rfl⟩ := hdone
    left
    rw [hselves e he, overlay, (hview e he).2]
  · have hsame : store'.contents r = store.contents r := by
      refine hothers r fun e he hslot => hdone ⟨e, he, ?_⟩
      exact hsep.slots _ (hview e he).1 r hr hslot.symm
    by_cases hrest : rest = []
    · left
      rw [hrest, List.append_nil] at hviews
      rw [hsame, overlay, h.viewOf_of_not_mem hsep hr (hviews ▸ hdone), Staged.overlay_fresh]
    · exact Or.inr ⟨hrest, hsame⟩

theorem Within.commitAll_eq (h : u.Within regions) (hsep : Separate regions)
    (hmem : ∀ r ∈ regions, store.InMemory r) :
    ∃ store', u.commitAll store = (.ok (), u.rollbackAll, store') ∧
      (∀ r ∈ regions, store'.contents r = u.overlay r (store.contents r)) ∧
      ∀ r, store.InMemory r → store'.InMemory r := by
  obtain ⟨store', hall, hcontents, hkeep⟩ :=
    h.publishAll_eq hsep hmem (List.append_nil u.views.entries).symm
  refine ⟨store', by simp [commitAll, hall], fun r hr => ?_, hkeep⟩
  rcases hcontents r hr with hcontents | ⟨hne, _⟩
  · exact hcontents
  · exact absurd rfl hne

end UnitOfWork

end DataMapper
