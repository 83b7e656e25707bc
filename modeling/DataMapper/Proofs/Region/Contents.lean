import DataMapper.Proofs.Table
import DataMapper.Region.Store
/-!
# Contents of regions

What a region holds, as a function from keys to rows. Lookups touch nothing but statistics, and a
region in memory takes a batch as one step: what the batch puts lies over what it does not clear.
-/

namespace DataMapper

/-- The rows under each key. -/
abbrev Contents := CacheKey → Option Rows

/-- What a batch makes of contents. -/
def CommitBatch.overlay (b : CommitBatch) (base : Contents) : Contents :=
  fun key => (b.entries.lookup key).or (if b.clear then none else base key)

namespace Storage

def contents : Storage → Contents
  | memory entries => entries.get?
  | volume v => fun key => (v.read? key).toOption.join

theorem contents_applyBatch (entries : Table CacheKey Rows) {batch : CommitBatch}
    (h : (batch.entries.map Prod.fst).Nodup) :
    ∃ entries', (memory entries).applyBatch batch = .ok (memory entries') ∧
      (memory entries').contents = batch.overlay (memory entries).contents := by
  cases hclear : batch.clear with
  | false =>
    refine ⟨entries.insertAll batch.entries, by simp [applyBatch, hclear, insertAll?], ?_⟩
    funext key
    simp only [contents, CommitBatch.overlay, hclear]
    exact Table.get?_insertAll entries h key
  | true =>
    refine ⟨Table.empty.insertAll batch.entries,
      by simp [applyBatch, hclear, clear, insertAll?], ?_⟩
    funext key
    simp only [contents, CommitBatch.overlay, hclear]
    rw [Table.get?_insertAll _ h key, Table.get?_empty]
    rfl

end Storage

namespace RegionStore

variable {s t u : RegionStore} {r r' : RegionRef}

def contents (s : RegionStore) (r : RegionRef) : Contents :=
  (s.storage r).contents

theorem region_setRegion (s : RegionStore) (r r' : RegionRef) (g : Region) :
    (s.setRegion r g).region r' =
      if r.slot = r'.slot ∧ r.slot < s.regions.length then g else s.region r' := by
  unfold setRegion region
  simp only [List.getD_eq_getElem?_getD, List.getElem?_set]
  by_cases hslot : r.slot = r'.slot
  · by_cases hlt : r.slot < s.regions.length
    · simp [hslot ▸ hlt, hslot]
    · have hlt' : ¬ r'.slot < s.regions.length := hslot ▸ hlt
      simp [hslot, hlt']
  · simp [hslot]

theorem backing_setRefusing (s : RegionStore) (r r' : RegionRef) (calls : List RegionCall) :
    ((s.setRefusing r calls).region r').backing = (s.region r').backing := by
  unfold setRefusing
  rw [region_setRegion]
  split_ifs with hslot
  · unfold region
    rw [hslot.1]
  · rfl

theorem storage_setRefusing (s : RegionStore) (r r' : RegionRef) (calls : List RegionCall) :
    (s.setRefusing r calls).storage r' = s.storage r' := by
  unfold storage
  rw [backing_setRefusing]
  rfl

/-! ## Stores that differ in statistics only -/

/-- The same entries in every region, and the same calls refused. -/
structure SameEntries (s t : RegionStore) : Prop where
  length : s.regions.length = t.regions.length
  backing : ∀ r, (s.region r).backing = (t.region r).backing
  refusing : ∀ r, (s.region r).refusing = (t.region r).refusing
  volumes : s.volumes = t.volumes

namespace SameEntries

theorem refl (s : RegionStore) : s.SameEntries s :=
  ⟨rfl, fun _ => rfl, fun _ => rfl, rfl⟩

theorem symm (h : s.SameEntries t) : t.SameEntries s :=
  ⟨h.length.symm, fun r => (h.backing r).symm, fun r => (h.refusing r).symm, h.volumes.symm⟩

theorem trans (h : s.SameEntries t) (h' : t.SameEntries u) : s.SameEntries u :=
  ⟨h.length.trans h'.length, fun r => (h.backing r).trans (h'.backing r),
    fun r => (h.refusing r).trans (h'.refusing r), h.volumes.trans h'.volumes⟩

theorem storage (h : s.SameEntries t) (r : RegionRef) : s.storage r = t.storage r := by
  unfold RegionStore.storage
  rw [h.backing r, h.volumes]

theorem contents (h : s.SameEntries t) (r : RegionRef) : s.contents r = t.contents r := by
  unfold RegionStore.contents
  rw [h.storage r]

theorem refuses (h : s.SameEntries t) (r : RegionRef) (call : RegionCall) :
    s.refuses r call = t.refuses r call := by
  unfold RegionStore.refuses
  rw [h.refusing r]

theorem setRegion (h : s.SameEntries t) (r : RegionRef) {g g' : Region}
    (hbacking : g.backing = g'.backing) (hrefusing : g.refusing = g'.refusing) :
    (s.setRegion r g).SameEntries (t.setRegion r g') := by
  refine ⟨by simp [RegionStore.setRegion, h.length], fun r' => ?_, fun r' => ?_, h.volumes⟩
  · rw [region_setRegion, region_setRegion, h.length]
    split
    · exact hbacking
    · exact h.backing r'
  · rw [region_setRegion, region_setRegion, h.length]
    split
    · exact hrefusing
    · exact h.refusing r'

theorem modifyStats_left (s : RegionStore) (r : RegionRef) (f : CacheStats → CacheStats) :
    (s.modifyStats r f).SameEntries s := by
  refine ⟨by simp [modifyStats, RegionStore.setRegion], fun r' => ?_, fun r' => ?_, rfl⟩
  · rw [modifyStats, region_setRegion]
    split
    · rename_i hslot
      simp [region, hslot.1]
    · rfl
  · rw [modifyStats, region_setRegion]
    split
    · rename_i hslot
      simp [region, hslot.1]
    · rfl

theorem modifyStats (h : s.SameEntries t) (r : RegionRef) (f g : CacheStats → CacheStats) :
    (s.modifyStats r f).SameEntries (t.modifyStats r g) :=
  (modifyStats_left s r f).trans (h.trans (modifyStats_left t r g).symm)

theorem setStorage (h : s.SameEntries t) (r : RegionRef) (contents : Storage) :
    (s.setStorage r contents).SameEntries (t.setStorage r contents) := by
  unfold RegionStore.setStorage
  rw [h.backing r, h.volumes]
  split
  · exact h.setRegion r rfl (h.refusing r)
  · exact ⟨h.length, h.backing, h.refusing, rfl⟩
  · exact h

theorem get_left (s : RegionStore) (r : RegionRef) (key : CacheKey) :
    (s.get r key).2.SameEntries s := by
  unfold RegionStore.get
  split
  · exact refl s
  · split
    · exact refl s
    · rename_i rows? _
      exact modifyStats_left s r fun stats =>
        if (Lookup.ofOption rows?).isHit then { stats with hits := stats.hits + 1 }
        else { stats with misses := stats.misses + 1 }

theorem get_fst (h : s.SameEntries t) (r : RegionRef) (key : CacheKey) :
    (s.get r key).1 = (t.get r key).1 := by
  unfold RegionStore.get
  rw [h.refuses, h.storage]
  split
  · rfl
  · cases (t.storage r).get? key <;> rfl

theorem apply_fst (h : s.SameEntries t) (r : RegionRef) (batch : CommitBatch) :
    (s.apply r batch).1 = (t.apply r batch).1 := by
  unfold RegionStore.apply
  rw [h.refuses, h.storage]
  split
  · rfl
  · cases (t.storage r).applyBatch batch <;> rfl

theorem apply_snd (h : s.SameEntries t) (r : RegionRef) (batch : CommitBatch) :
    (s.apply r batch).2.SameEntries (t.apply r batch).2 := by
  unfold RegionStore.apply
  rw [h.refuses, h.storage]
  split
  · exact h
  · cases (t.storage r).applyBatch batch with
    | error _ => exact h
    | ok contents =>
      dsimp only
      exact (h.setStorage r contents).modifyStats r _ _

end SameEntries

/-! ## Regions in memory -/

/-- The region is open, keeps its entries in memory and takes every call. -/
structure InMemory (s : RegionStore) (r : RegionRef) : Prop where
  opened : r.slot < s.regions.length
  own : ∃ entries, (s.region r).backing = .own entries
  willing : (s.region r).refusing = []

theorem InMemory.of_sameEntries (h : t.InMemory r) (hs : s.SameEntries t) : s.InMemory r :=
  ⟨hs.length ▸ h.opened, hs.backing r ▸ h.own, (hs.refusing r).trans h.willing⟩

theorem InMemory.refuses_eq (h : s.InMemory r) (call : RegionCall) : s.refuses r call = false := by
  simp [refuses, h.willing]

theorem InMemory.get_eq (h : s.InMemory r) (key : CacheKey) :
    (s.get r key).1 = .ok (.ofOption (s.contents r key)) := by
  obtain ⟨entries, hown⟩ := h.own
  simp [RegionStore.get, h.refuses_eq, contents, storage, hown, Storage.get?, Storage.contents]

/-- A region in memory takes a batch, and no other region notices. -/
theorem InMemory.apply_eq (h : s.InMemory r) {batch : CommitBatch}
    (hkeys : (batch.entries.map Prod.fst).Nodup) :
    ∃ s', s.apply r batch = (.ok (), s') ∧ s'.contents r = batch.overlay (s.contents r) ∧
      (∀ r', r'.slot ≠ r.slot → s'.contents r' = s.contents r') ∧
      ∀ r', s.InMemory r' → s'.InMemory r' := by
  obtain ⟨entries, hown⟩ := h.own
  obtain ⟨entries', happly, hcontents⟩ := Storage.contents_applyBatch entries hkeys
  have hstorage : s.storage r = .memory entries := by simp [storage, hown]
  have hset : s.setStorage r (.memory entries') =
      s.setRegion r { s.region r with backing := .own entries' } := by
    simp [setStorage, hown]
  let stats : CacheStats → CacheStats := fun stats =>
    { stats with
      commits := stats.commits + 1
      clears := if batch.clear then stats.clears + 1 else stats.clears }
  refine ⟨(s.setStorage r (.memory entries')).modifyStats r stats, ?_, ?_, ?_, ?_⟩
  · simp [RegionStore.apply, h.refuses_eq, hstorage, happly, stats]
  · rw [(SameEntries.modifyStats_left _ r stats).contents, contents, contents, hstorage, hset,
      ← hcontents, storage, region_setRegion, if_pos ⟨rfl, h.opened⟩]
  · intro r' hslot
    rw [(SameEntries.modifyStats_left _ r stats).contents, contents, contents, hset, storage,
      storage, region_setRegion, if_neg fun hand => hslot hand.1.symm]
    rfl
  · intro r' h'
    refine InMemory.of_sameEntries ?_ (SameEntries.modifyStats_left _ r stats)
    rw [hset]
    refine ⟨by simpa [setRegion] using h'.opened, ?_, ?_⟩
    · rw [region_setRegion]
      split
      · exact ⟨entries', rfl⟩
      · exact h'.own
    · rw [region_setRegion]
      split
      · exact h.willing
      · exact h'.willing

/-! ## Opening regions in memory -/

theorem region_of_length_le (h : s.regions.length ≤ r.slot) : s.region r = {} := by
  simp only [region, List.getD_eq_getElem?_getD, List.getElem?_eq_none h]
  rfl

/-- The region at a place of a store with one more region. -/
theorem region_append (s : RegionStore) (g : Region) (r : RegionRef) :
    ({ s with regions := s.regions ++ [g] } : RegionStore).region r =
      if r.slot = s.regions.length then g else s.region r := by
  unfold region
  rw [List.getD_eq_getElem?_getD, List.getD_eq_getElem?_getD, List.getElem?_append]
  split_ifs with hlt heq heq
  · omega
  · rfl
  · rw [heq, Nat.sub_self]
    rfl
  · have hbeyond : s.regions.length ≤ r.slot := Nat.le_of_not_lt hlt
    have hout : 1 ≤ r.slot - s.regions.length := by omega
    rw [List.getElem?_eq_none hbeyond, List.getElem?_eq_none hout]

/-- A region that is opened in memory is what it was before it was opened. -/
theorem region_openMemory (s : RegionStore) (id : String) (r : RegionRef) :
    (s.openMemory id).2.region r = s.region r := by
  refine (s.region_append {} r).trans ?_
  split_ifs with hslot
  · rw [region_of_length_le (Nat.le_of_eq hslot.symm)]
  · rfl

theorem storage_openMemory (s : RegionStore) (id : String) (r : RegionRef) :
    (s.openMemory id).2.storage r = s.storage r := by
  unfold storage
  rw [region_openMemory]
  rfl

theorem region_opened (s : RegionStore) (id : String) :
    (s.openMemory id).2.region (s.openMemory id).1 = {} :=
  (s.region_openMemory id _).trans (region_of_length_le (Nat.le_refl s.regions.length))

theorem inMemory_openMemory (s : RegionStore) (id : String) :
    (s.openMemory id).2.InMemory (s.openMemory id).1 := by
  refine ⟨by simp [openMemory], ⟨.empty, ?_⟩, ?_⟩
  · rw [region_opened]
  · rw [region_opened]

theorem InMemory.openMemory (h : s.InMemory r) (id : String) :
    (s.openMemory id).2.InMemory r := by
  have hlt : r.slot < (s.openMemory id).2.regions.length := by
    have := h.opened
    simp only [RegionStore.openMemory, List.length_append]
    omega
  refine ⟨hlt, ?_, ?_⟩
  · rw [region_openMemory]
    exact h.own
  · rw [region_openMemory]
    exact h.willing

theorem contents_openMemory (s : RegionStore) (id : String) :
    (s.openMemory id).2.contents (s.openMemory id).1 = fun _ => none := by
  funext key
  simp [contents, storage, region_opened, Storage.contents]

end RegionStore

end DataMapper
