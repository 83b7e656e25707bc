import DataMapper.Proofs.Region.Batches
/-!
# Batches one after another

What becomes of a region while batches are applied to many regions in turn. A region answers its
batch as it would have answered it first, and counts it as if it were the only one. Its entries
depend on those batches alone whose regions share its storage.
-/

namespace DataMapper

/-- One apply call: a region and the batch that it is handed. -/
abbrev Application := RegionRef × CommitBatch

/-! ## Refused batches -/

theorem Volume.error_of_writeAll? {v : Volume} {entries : List (CacheKey × Rows)}
    {e : VolumeError} (h : v.writeAll? entries = .error e) : e = .badKeySize := by
  induction entries generalizing v with
  | nil => cases h
  | cons entry rest ih =>
    rw [writeAll?, write?] at h
    split_ifs at h
    · exact ih h
    · cases h
      rfl

/-- A batch is refused for the length of a key, and for nothing else. -/
theorem Storage.error_of_applyBatch {st : Storage} {batch : CommitBatch} {e : VolumeError}
    (h : st.applyBatch batch = .error e) : e = .badKeySize := by
  unfold applyBatch at h
  cases hcleared : (if batch.clear then st.clear else st) with
  | memory entries =>
    rw [hcleared] at h
    cases h
  | volume v =>
    rw [hcleared, insertAll?] at h
    cases hwrite : v.writeAll? batch.entries with
    | ok v' =>
      rw [hwrite] at h
      cases h
    | error e' =>
      rw [hwrite] at h
      cases h
      exact Volume.error_of_writeAll? hwrite

namespace RegionStore

variable {s t : RegionStore} {r r' : RegionRef} {batch : CommitBatch}

/-! ## One batch -/

/-- The statistics of a region that has taken a batch. -/
def counted (batch : CommitBatch) (stats : CacheStats) : CacheStats :=
  { stats with
    commits := stats.commits + 1
    clears := if batch.clear then stats.clears + 1 else stats.clears }

/-- Stores of one layout refuse a batch with the same error, or both take it. -/
theorem SameLayout.apply_cases (h : s.SameLayout t) (r : RegionRef) (batch : CommitBatch) :
    (∃ e, s.apply r batch = (.error e, s) ∧ t.apply r batch = (.error e, t)) ∨
      ∃ st st', (s.storage r).applyBatch batch = .ok st ∧ (t.storage r).applyBatch batch = .ok st' ∧
        s.apply r batch = (.ok (), (s.setStorage r st).modifyStats r (counted batch)) ∧
        t.apply r batch = (.ok (), (t.setStorage r st').modifyStats r (counted batch)) := by
  have htakes := h.takes r batch
  rw [← Storage.exists_applyBatch_iff, ← Storage.exists_applyBatch_iff] at htakes
  unfold apply
  rw [h.refuses r .apply]
  cases t.refuses r .apply with
  | true => exact .inl ⟨_, rfl, rfl⟩
  | false =>
    rw [if_neg Bool.false_ne_true, if_neg Bool.false_ne_true]
    cases hs : (s.storage r).applyBatch batch with
    | ok st =>
      obtain ⟨st', ht⟩ := htakes.1 ⟨st, hs⟩
      rw [ht]
      exact .inr ⟨st, st', rfl, rfl, rfl, rfl⟩
    | error e =>
      cases ht : (t.storage r).applyBatch batch with
      | ok st' =>
        obtain ⟨st, hst⟩ := htakes.2 ⟨st', ht⟩
        rw [hs] at hst
        cases hst
      | error e' =>
        rw [Storage.error_of_applyBatch hs, Storage.error_of_applyBatch ht]
        exact .inl ⟨_, rfl, rfl⟩

/-- What a region answers, down to the message, is decided by the layout of the store. -/
theorem SameLayout.apply_fst (h : s.SameLayout t) (r : RegionRef) (batch : CommitBatch) :
    (s.apply r batch).1 = (t.apply r batch).1 := by
  rcases h.apply_cases r batch with ⟨e, hs, ht⟩ | ⟨_, _, _, _, hs, ht⟩
  · rw [hs, ht]
  · rw [hs, ht]

theorem region_setStorage_of_slot_ne (h : r.slot ≠ r'.slot) (st : Storage) :
    (s.setStorage r st).region r' = s.region r' := by
  unfold setStorage
  split
  · rw [region_setRegion, if_neg fun hand => h hand.1]
  · rfl
  · rfl

/-- A batch changes the record of its own region alone. -/
theorem region_apply_of_slot_ne (h : r.slot ≠ r'.slot) (batch : CommitBatch) :
    (s.apply r batch).2.region r' = s.region r' := by
  rcases (SameLayout.refl s).apply_cases r batch with ⟨e, hs, _⟩ | ⟨st, _, _, _, hs, _⟩
  · rw [hs]
  · rw [hs, modifyStats, region_setRegion, if_neg fun hand => h hand.1,
      region_setStorage_of_slot_ne h]

/-- The record of a region after its batch depends on the record before, and on the layout. -/
theorem SameLayout.region_apply (h : s.SameLayout t) (hregion : s.region r = t.region r)
    (batch : CommitBatch) : (s.apply r batch).2.region r = (t.apply r batch).2.region r := by
  rcases h.apply_cases r batch with ⟨e, hs, ht⟩ | ⟨st, st', hst, hst', hs, ht⟩
  · rw [hs, ht, hregion]
  have hset : (s.setStorage r st).region r = (t.setStorage r st').region r := by
    cases hd : s.directory? r with
    | none =>
      obtain ⟨entries, hown⟩ := backing_of_directory?_none hd
      have hown' : (t.region r).backing = .own entries := hregion ▸ hown
      rw [storage_of_own hown] at hst
      rw [storage_of_own hown', hst] at hst'
      cases hst'
      obtain ⟨entries', rfl⟩ := Storage.eq_memory_of_applyBatch hst
      rw [setStorage_own hown, setStorage_own hown', region_setRegion, region_setRegion, h.length,
        hregion]
    | some d =>
      rw [storage_of_shared (backing_of_directory?_some hd)] at hst
      rw [storage_of_shared (backing_of_directory?_some (h.directory? r ▸ hd))] at hst'
      obtain ⟨v, rfl⟩ := Storage.eq_volume_of_applyBatch hst
      obtain ⟨v', rfl⟩ := Storage.eq_volume_of_applyBatch hst'
      rw [region_setStorage_volume, region_setStorage_volume, hregion]
  have hlength : (s.setStorage r st).regions.length = (t.setStorage r st').regions.length := by
    rw [(s.sameLayout_setStorage r st).length, h.length, (t.sameLayout_setStorage r st').length]
  rw [hs, ht]
  dsimp only [modifyStats]
  rw [region_setRegion, region_setRegion, hset, hlength]

/-- The entries of a region after its batch depend on the entries before, and on the layout. -/
theorem SameLayout.storage_apply (h : s.SameLayout t) (hstorage : s.storage r = t.storage r)
    (batch : CommitBatch) : (s.apply r batch).2.storage r = (t.apply r batch).2.storage r := by
  rcases h.apply_cases r batch with ⟨e, hs, ht⟩ | ⟨st, st', hst, hst', hs, ht⟩
  · rw [hs, ht, hstorage]
  rw [hstorage, hst'] at hst
  cases hst
  rw [hs, ht]
  dsimp only
  rw [(SameEntries.modifyStats_left _ r _).storage, (SameEntries.modifyStats_left _ r _).storage]
  by_cases hopen : r.slot < s.regions.length
  · rw [storage_setStorage_self (hstorage ▸ hst') hopen,
      storage_setStorage_self hst' (h.length ▸ hopen)]
  · have hclosed := Nat.le_of_not_lt hopen
    rw [storage_of_length_le ((s.sameLayout_setStorage r st).length ▸ hclosed),
      storage_of_length_le ((t.sameLayout_setStorage r st).length ▸ h.length ▸ hclosed)]

/-- An open region that takes a batch holds what the batch makes of its entries. -/
theorem applyBatch_eq_storage_apply (haccepts : s.Accepts r batch)
    (hopen : r.slot < s.regions.length) :
    (s.storage r).applyBatch batch = .ok ((s.apply r batch).2.storage r) := by
  obtain ⟨st, hst, hsame⟩ := apply_of_accepts haccepts
  rw [hsame.storage r, storage_setStorage_self hst hopen, hst]

/-- A failed lookup names its region. -/
theorem error_of_get {key : CacheKey} {e : Error} (h : (s.get r key).1 = .error e) :
    ∃ reason, e = .cache (.backend r.id reason) := by
  unfold get at h
  split_ifs at h
  · cases h
    exact ⟨_, rfl⟩
  · cases hget : (s.storage r).get? key with
    | error e' =>
      rw [hget] at h
      cases h
      exact ⟨_, rfl⟩
    | ok rows? =>
      rw [hget] at h
      cases h

/-! ## Many batches -/

/-- The store after batches that are applied in turn, whatever the regions answer. -/
def applyAll (s : RegionStore) (batches : List Application) : RegionStore :=
  batches.foldl (fun s e => (s.apply e.1 e.2).2) s

variable {batches : List Application}

theorem applyAll_cons (s : RegionStore) (e : Application) (rest : List Application) :
    s.applyAll (e :: rest) = (s.apply e.1 e.2).2.applyAll rest :=
  rfl

theorem region_applyAll_of_slot_ne (h : ∀ e ∈ batches, e.1.slot ≠ r.slot) :
    (s.applyAll batches).region r = s.region r := by
  induction batches generalizing s with
  | nil => rfl
  | cons e rest ih =>
    obtain ⟨hfirst, hrest⟩ := List.forall_mem_cons.1 h
    rw [applyAll_cons, ih hrest, region_apply_of_slot_ne hfirst]

theorem storage_applyAll_of_not_shares (h : ∀ e ∈ batches, ¬ s.Shares e.1 r) :
    (s.applyAll batches).storage r = s.storage r := by
  induction batches generalizing s with
  | nil => rfl
  | cons e rest ih =>
    obtain ⟨hfirst, hrest⟩ := List.forall_mem_cons.1 h
    have hlayout := s.sameLayout_apply e.1 e.2
    rw [applyAll_cons, ih fun e' he' => hlayout.shares.not.2 (hrest e' he'),
      storage_apply_of_not_shares hfirst]

/-- A region counts its batch, and takes or refuses it, as if there were no other. -/
theorem region_applyAll (hslots : batches.Pairwise fun a b => a.1.slot ≠ b.1.slot)
    {e : Application} (he : e ∈ batches) :
    (s.applyAll batches).region e.1 = (s.apply e.1 e.2).2.region e.1 := by
  induction batches generalizing s with
  | nil => cases he
  | cons first rest ih =>
    obtain ⟨hfirst, hrest⟩ := List.pairwise_cons.1 hslots
    rw [applyAll_cons]
    rcases List.mem_cons.1 he with rfl | he
    · exact region_applyAll_of_slot_ne fun e' he' => (hfirst e' he').symm
    · rw [ih hrest he]
      exact (s.sameLayout_apply first.1 first.2).region_apply
        (region_apply_of_slot_ne (hfirst e he) first.2) e.2

/-- A region that shares its entries with no other of the regions ends up with what its batch alone
makes of them. -/
theorem storage_applyAll (hslots : batches.Pairwise fun a b => a.1.slot ≠ b.1.slot)
    {e : Application} (he : e ∈ batches)
    (halone : ∀ e' ∈ batches, e'.1.slot ≠ e.1.slot → ¬ s.Shares e'.1 e.1) :
    (s.applyAll batches).storage e.1 = (s.apply e.1 e.2).2.storage e.1 := by
  induction batches generalizing s with
  | nil => cases he
  | cons first rest ih =>
    obtain ⟨hfirst, hrest⟩ := List.pairwise_cons.1 hslots
    obtain ⟨halone₁, halone₂⟩ := List.forall_mem_cons.1 halone
    have hlayout := s.sameLayout_apply first.1 first.2
    rw [applyAll_cons]
    rcases List.mem_cons.1 he with rfl | he
    · exact storage_applyAll_of_not_shares fun e' he' =>
        hlayout.shares.not.2 (halone₂ e' he' (hfirst e' he').symm)
    · rw [ih hrest he fun e' he' hne => hlayout.shares.not.2 (halone₂ e' he' hne)]
      exact hlayout.storage_apply
        (storage_apply_of_not_shares (halone₁ (hfirst e he)) first.2) e.2

/-- What the refusing regions report, each judged in the store that the first batch meets. -/
def failures (s : RegionStore) (batches : List Application) : List RegionFailure :=
  batches.flatMap fun e =>
    match (s.apply e.1 e.2).1 with
    | .ok _ => []
    | .error error => [⟨e.1.id, error.message⟩]

theorem failures_cons (s : RegionStore) (e : Application) (rest : List Application) :
    s.failures (e :: rest) = (match (s.apply e.1 e.2).1 with
      | .ok _ => []
      | .error error => [⟨e.1.id, error.message⟩]) ++ s.failures rest :=
  rfl

theorem SameLayout.failures (h : s.SameLayout t) (batches : List Application) :
    s.failures batches = t.failures batches := by
  unfold RegionStore.failures
  simp only [h.apply_fst]

end RegionStore

end DataMapper
