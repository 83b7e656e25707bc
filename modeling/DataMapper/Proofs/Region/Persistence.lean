import DataMapper.Proofs.Region.Batches
import DataMapper.Proofs.Value.Json
/-!
# Persistence

A volume stands for a table in memory if it reads the rows of the table under every key. Entries
with short keys and shallow rows are written to both alike, so that stores that keep their regions
on volumes answer as stores that keep them in memory.
-/

namespace DataMapper

/-! ## Volumes in place of tables -/

namespace Volume

variable {v : Volume} {entries : Table CacheKey Rows} {key : CacheKey} {rows : Rows}

/-- A volume takes the key of the entry, and reads its rows back. -/
structure Storable (key : CacheKey) (rows : Rows) : Prop where
  short : key.encode.length ≤ maxKeySize
  ordered : Value.OrderedItems rows
  shallow : Rows.nesting rows ≤ Json.maxDepth

/-- The volume reads what the table holds. -/
def StandsFor (v : Volume) (entries : Table CacheKey Rows) : Prop :=
  ∀ key, v.read? key = .ok (entries.get? key)

theorem standsFor_empty : Volume.StandsFor .empty .empty :=
  fun _ => rfl

theorem StandsFor.insert (h : v.StandsFor entries) (hentry : Storable key rows) :
    Volume.StandsFor (v.insert key.encode (Rows.jsonText rows)) (entries.insert key rows) := by
  intro key'
  unfold read?
  rw [Table.get?_insert, Table.get?_insert]
  by_cases hkey : key' = key
  · rw [if_pos (congrArg _ hkey), if_pos hkey]
    dsimp only
    rw [Rows.parse?_jsonText hentry.ordered hentry.shallow]
  · have hencode : key'.encode ≠ key.encode :=
      fun heq => hkey (eq_of_short_of_encode_eq hentry.short heq.symm).symm
    rw [if_neg hencode, if_neg hkey]
    exact h key'

theorem StandsFor.writeAll? (h : v.StandsFor entries) {batch : List (CacheKey × Rows)}
    (hbatch : ∀ e ∈ batch, Storable e.1 e.2) :
    ∃ v', v.writeAll? batch = .ok v' ∧ v'.StandsFor (entries.insertAll batch) := by
  induction batch generalizing v entries with
  | nil => exact ⟨v, rfl, h⟩
  | cons e rest ih =>
    obtain ⟨hfirst, hrest⟩ := List.forall_mem_cons.1 hbatch
    have hwrite : v.write? e.1 e.2 = .ok (v.insert e.1.encode (Rows.jsonText e.2)) :=
      if_pos hfirst.short
    rw [Volume.writeAll?, hwrite]
    exact ih (h.insert hfirst) hrest

/-- Rows that nest too deeply are written, but not read back. -/
theorem read?_of_deep (htext : v.get? key.encode = some (Rows.jsonText rows))
    (hdepth : Json.maxDepth < Rows.nesting rows) : v.read? key = .error .unreadableRows := by
  unfold read?
  rw [htext]
  dsimp only
  rw [Rows.parse?_jsonText_of_deep hdepth]

end Volume

/-- Every entry of the batch can be kept on a volume. -/
def CommitBatch.Storable (b : CommitBatch) : Prop :=
  ∀ e ∈ b.entries, Volume.Storable e.1 e.2

/-! ## Storage on volumes in place of storage in memory -/

namespace Storage

/-- The second storage is the first one, or it is a volume that stands for the first one's table. -/
inductive Persists : Storage → Storage → Prop where
  | refl (st : Storage) : Persists st st
  | mounted {entries : Table CacheKey Rows} {v : Volume} (h : v.StandsFor entries) :
    Persists (memory entries) (volume v)

variable {st st' : Storage}

theorem Persists.get? (h : st.Persists st') (key : CacheKey) : st.get? key = st'.get? key := by
  cases h with
  | refl st => rfl
  | mounted hstands => exact (hstands key).symm

theorem applyBatch_of_standsFor {v : Volume} {entries : Table CacheKey Rows}
    (h : v.StandsFor entries) {batch : CommitBatch} (hbatch : batch.Storable) :
    ∃ v' entries', (volume v).applyBatch batch = .ok (volume v') ∧
      (memory entries).applyBatch batch = .ok (memory entries') ∧ v'.StandsFor entries' :=
  applyBatch_related Volume.standsFor_empty (fun _ _ hstands => hstands.writeAll? hbatch) h

/-- Both take a batch, or both report the same. -/
theorem Persists.applyBatch (h : st.Persists st') {batch : CommitBatch}
    (hbatch : ∀ entries, st = memory entries → batch.Storable) :
    (∃ e, st.applyBatch batch = .error e ∧ st'.applyBatch batch = .error e) ∨
      ∃ after after', st.applyBatch batch = .ok after ∧ st'.applyBatch batch = .ok after' ∧
        after.Persists after' := by
  cases h with
  | refl st =>
    cases happly : st.applyBatch batch with
    | error e => exact .inl ⟨e, rfl, rfl⟩
    | ok after => exact .inr ⟨after, after, rfl, rfl, .refl after⟩
  | mounted hstands =>
    obtain ⟨v', entries', hwrite, hinsert, hstands'⟩ :=
      applyBatch_of_standsFor hstands (hbatch _ rfl)
    exact .inr ⟨_, _, hinsert, hwrite, .mounted hstands'⟩

end Storage

/-! ## Stores that have volumes in place of tables -/

namespace RegionStore

variable {s t s' t' : RegionStore} {r r' : RegionRef} {batch : CommitBatch}

/-- The same regions in both stores, of which some are in memory in the first one and have a volume
of their own in the second. -/
structure Persists (s t : RegionStore) : Prop where
  length : s.regions.length = t.regions.length
  refusing : ∀ r, (s.region r).refusing = (t.region r).refusing
  shares : ∀ r r', s.Shares r r' ↔ t.Shares r r'
  storage : ∀ r, (s.storage r).Persists (t.storage r)

namespace Persists

theorem refl (s : RegionStore) : s.Persists s :=
  ⟨rfl, fun _ => rfl, fun _ _ => Iff.rfl, fun r => .refl (s.storage r)⟩

/-- Stores of the same layout persist each other as well, if their storage does. -/
theorem of_sameLayout (h : s.Persists t) (hs : s'.SameLayout s) (ht : t'.SameLayout t)
    (hstorage : ∀ r, (s'.storage r).Persists (t'.storage r)) : s'.Persists t' where
  length := hs.length.trans (h.length.trans ht.length.symm)
  refusing := fun r => (hs.refusing r).trans ((h.refusing r).trans (ht.refusing r).symm)
  shares := fun r r' => hs.shares.trans ((h.shares r r').trans ht.shares.symm)
  storage := hstorage

theorem of_sameEntries (h : s.Persists t) (hs : s'.SameEntries s) (ht : t'.SameEntries t) :
    s'.Persists t' :=
  h.of_sameLayout (.of_sameEntries hs) (.of_sameEntries ht) fun r => by
    rw [hs.storage r, ht.storage r]
    exact h.storage r

theorem refuses (h : s.Persists t) (r : RegionRef) (call : RegionCall) :
    s.refuses r call = t.refuses r call := by
  unfold RegionStore.refuses
  rw [h.refusing r]

theorem get (h : s.Persists t) (r : RegionRef) (key : CacheKey) :
    (s.get r key).1 = (t.get r key).1 ∧ (s.get r key).2.Persists (t.get r key).2 := by
  refine ⟨?_, h.of_sameEntries (.get_left s r key) (.get_left t r key)⟩
  unfold RegionStore.get
  rw [h.refuses, (h.storage r).get?]
  split
  · rfl
  · cases (t.storage r).get? key <;> rfl

/-- What both stores make of a batch that they take is put into both. -/
theorem setStorage (h : s.Persists t) {st st' : Storage}
    (hs : (s.storage r).applyBatch batch = .ok st) (ht : (t.storage r).applyBatch batch = .ok st')
    (hst : st.Persists st') : (s.setStorage r st).Persists (t.setStorage r st') := by
  have hsame := s.sameLayout_setStorage r st
  have htame := t.sameLayout_setStorage r st'
  refine h.of_sameLayout hsame htame fun r' => ?_
  by_cases hshares : s.Shares r r'
  · rw [storage_eq_of_shares (hsame.shares.2 hshares),
      storage_eq_of_shares (htame.shares.2 ((h.shares r r').1 hshares))]
    by_cases hopen : r.slot < s.regions.length
    · rw [storage_setStorage_self hs hopen, storage_setStorage_self ht (h.length ▸ hopen)]
      exact hst
    · have hlength := Nat.le_of_not_lt hopen
      rw [storage_of_length_le (hsame.length ▸ hlength),
        storage_of_length_le (htame.length ▸ h.length ▸ hlength)]
      exact .refl _
  · rw [storage_setStorage_of_not_shares hshares,
      storage_setStorage_of_not_shares (mt (h.shares r r').2 hshares)]
    exact h.storage r'

/-- A batch is answered alike, if its entries can be kept on volumes or its region is on one. -/
theorem apply (h : s.Persists t) (r : RegionRef)
    (hbatch : s.directory? r = none → batch.Storable) :
    (s.apply r batch).1 = (t.apply r batch).1 ∧
      (s.apply r batch).2.Persists (t.apply r batch).2 := by
  unfold RegionStore.apply
  rw [h.refuses]
  cases t.refuses r .apply with
  | true => exact ⟨rfl, h⟩
  | false =>
    rw [if_neg Bool.false_ne_true, if_neg Bool.false_ne_true]
    rcases (h.storage r).applyBatch fun _ hmemory => hbatch (directory?_of_memory hmemory) with
      ⟨e, hs, ht⟩ | ⟨st, st', hs, ht, hst⟩
    · rw [hs, ht]
      exact ⟨rfl, h⟩
    · have hset := h.setStorage hs ht hst
      rw [hs, ht]
      dsimp only
      exact ⟨rfl, hset.of_sameEntries (.modifyStats_left _ r _) (.modifyStats_left _ r _)⟩

end Persists

/-! ## Opening regions in both stores -/

theorem region_mount (t : RegionStore) (id : String) (d : Directory) (r : RegionRef) :
    (t.mount id d).2.region r =
      if r.slot = t.regions.length then { backing := .shared d } else t.region r :=
  t.region_append _ r

/-- No region of the store uses the directory, and there is no volume in it. -/
structure Unused (t : RegionStore) (d : Directory) : Prop where
  unmounted : ∀ r, t.directory? r ≠ some d
  missing : t.volumes.get? d = none

theorem directory?_openMemory (s : RegionStore) (id : String) (r : RegionRef) :
    (s.openMemory id).2.directory? r = s.directory? r := by
  unfold directory?
  rw [region_openMemory]

theorem directory?_mount (t : RegionStore) (id : String) (d : Directory) (r : RegionRef) :
    (t.mount id d).2.directory? r =
      if r.slot = t.regions.length then some d else t.directory? r := by
  unfold directory?
  rw [region_mount]
  split_ifs <;> rfl

theorem volumes_mount {d : Directory} (h : t.Unused d) (id : String) :
    (t.mount id d).2.volumes = t.volumes.insert d .empty := by
  have hmissing : t.volumes.contains d = false := by
    unfold Table.contains
    rw [h.missing]
    rfl
  unfold mount
  dsimp only
  rw [hmissing, if_neg Bool.false_ne_true]

theorem storage_mount {d : Directory} (h : t.Unused d) (id : String) (r : RegionRef) :
    (t.mount id d).2.storage r =
      if r.slot = t.regions.length then .volume .empty else t.storage r := by
  have hregion := t.region_mount id d r
  split_ifs with hslot
  · rw [if_pos hslot] at hregion
    rw [storage_of_shared (congrArg Region.backing hregion), volumes_mount h,
      Table.get?_insert_self]
    rfl
  · rw [if_neg hslot] at hregion
    cases hd : t.directory? r with
    | none =>
      obtain ⟨entries, hown⟩ := backing_of_directory?_none hd
      rw [storage_of_own hown, storage_of_own (hregion ▸ hown)]
    | some d' =>
      have hshared := backing_of_directory?_some hd
      have hne : d' ≠ d := fun heq => h.unmounted r (heq ▸ hd)
      rw [storage_of_shared hshared, storage_of_shared (hregion ▸ hshared), volumes_mount h,
        Table.get?_insert_of_ne _ _ hne]

theorem shares_mount {d : Directory} (h : t.Unused d) (id : String) :
    (t.mount id d).2.Shares r r' ↔ t.Shares r r' := by
  constructor
  · rintro (hslot | ⟨d', hr, hr'⟩)
    · exact .inl hslot
    · rw [directory?_mount] at hr hr'
      split_ifs at hr hr' with hslot hslot' hslot'
      · exact .inl (hslot.trans hslot'.symm)
      · exact absurd (hr'.trans hr.symm) (h.unmounted r')
      · exact absurd (hr.trans hr'.symm) (h.unmounted r)
      · exact .inr ⟨d', hr, hr'⟩
  · rintro (hslot | ⟨d', hr, hr'⟩)
    · exact .inl hslot
    · have hmounted : ∀ {r}, t.directory? r = some d' →
          (t.mount id d).2.directory? r = some d' := by
        intro r hd'
        have hslot : r.slot ≠ t.regions.length := fun heq =>
          nomatch (directory?_of_memory (storage_of_length_le heq.ge)).symm.trans hd'
        rw [directory?_mount, if_neg hslot, hd']
      exact .inr ⟨d', hmounted hr, hmounted hr'⟩

/-- A fresh region on an unused volume takes the place of a fresh one in memory. -/
theorem Persists.mount (h : s.Persists t) {d : Directory} (hd : t.Unused d) (id : String) :
    (s.openMemory id).2.Persists (t.mount id d).2 where
  length := by
    simp [openMemory, RegionStore.mount, h.length]
  refusing := fun r => by
    rw [region_openMemory, region_mount]
    split_ifs with hslot
    · rw [region_of_length_le (h.length ▸ hslot.ge)]
    · exact h.refusing r
  shares := fun r r' => by
    rw [shares_mount hd, ← h.shares]
    unfold Shares
    rw [directory?_openMemory, directory?_openMemory]
  storage := fun r => by
    rw [storage_openMemory, storage_mount hd]
    split_ifs with hslot
    · rw [storage_of_length_le (h.length ▸ hslot.ge)]
      exact .mounted Volume.standsFor_empty
    · exact h.storage r

theorem Unused.mount {d d' : Directory} (h : t.Unused d) (h' : t.Unused d') (hne : d' ≠ d)
    (id : String) : (t.mount id d).2.Unused d' where
  unmounted := fun r => by
    rw [directory?_mount]
    split_ifs
    · exact fun heq => hne (Option.some.inj heq).symm
    · exact h'.unmounted r
  missing := by
    rw [volumes_mount h, Table.get?_insert_of_ne _ _ hne]
    exact h'.missing

/-- Opens regions in memory, one after another. -/
def openAll (s : RegionStore) (ids : List String) : RegionStore :=
  ids.foldl (fun s id => (s.openMemory id).2) s

/-- Opens regions on the volumes of directories, one after another. -/
def mountAll (t : RegionStore) (mounts : List (String × Directory)) : RegionStore :=
  mounts.foldl (fun t m => (t.mount m.1 m.2).2) t

theorem Persists.mountAll (h : s.Persists t) {mounts : List (String × Directory)}
    (hunused : ∀ m ∈ mounts, t.Unused m.2) (hdistinct : (mounts.map Prod.snd).Nodup) :
    (s.openAll (mounts.map Prod.fst)).Persists (t.mountAll mounts) := by
  induction mounts generalizing s t with
  | nil => exact h
  | cons m rest ih =>
    obtain ⟨hfirst, hrest⟩ := List.forall_mem_cons.1 hunused
    obtain ⟨hnot, hdistinct'⟩ := List.nodup_cons.1 hdistinct
    refine ih (h.mount hfirst m.1) (fun m' hm' => ?_) hdistinct'
    have hne : m'.2 ≠ m.2 := fun heq => hnot (heq ▸ List.mem_map_of_mem hm')
    exact hfirst.mount (hrest m' hm') hne m.1

end RegionStore

end DataMapper
