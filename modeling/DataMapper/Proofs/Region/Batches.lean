import DataMapper.Proofs.Region.Contents
import DataMapper.Proofs.Value.Binary
/-!
# Batches

What a batch does to the keys that regions hold. A region takes a batch or refuses it as a whole,
and other regions notice only if they share its storage. Whether it is taken depends on the layout
of the store alone, which no batch changes.
-/

namespace DataMapper

theorem Table.contains_insertAll {κ ν : Type} [DecidableEq κ] {t : Table κ ν}
    {entries : List (κ × ν)} {k : κ} (h : (t.insertAll entries).contains k = true) :
    t.contains k = true ∨ ∃ v, (k, v) ∈ entries := by
  induction entries generalizing t with
  | nil => exact .inl h
  | cons e rest ih =>
    rcases ih (t := t.insert e.1 e.2) h with hk | ⟨v, hv⟩
    · by_cases hke : k = e.1
      · exact .inr ⟨e.2, hke ▸ List.mem_cons_self⟩
      · rw [contains, get?_insert_of_ne _ _ hke] at hk
        exact .inl hk
    · exact .inr ⟨v, List.mem_cons_of_mem e hv⟩

/-- The batch has an entry under the key. -/
def CommitBatch.Puts (b : CommitBatch) (key : CacheKey) : Prop :=
  ∃ rows, (key, rows) ∈ b.entries

/-! ## Volumes -/

namespace Volume

/-- Keys that a volume takes are told apart by their bytes, from all other keys. -/
theorem eq_of_short_of_encode_eq {key key' : CacheKey} (hshort : key.encode.length ≤ maxKeySize)
    (h : key.encode = key'.encode) : key = key' :=
  CacheKey.eq_of_encode_eq (Nat.lt_of_le_of_lt hshort (by decide)) h

/-- An entry as a volume keeps it. -/
def ofEntry (e : CacheKey × Rows) : List UInt8 × String :=
  (e.1.encode, Rows.jsonText e.2)

theorem writeAll?_of_short (v : Volume) {entries : List (CacheKey × Rows)}
    (h : ∀ e ∈ entries, e.1.encode.length ≤ maxKeySize) :
    v.writeAll? entries = .ok (v.insertAll (entries.map ofEntry)) := by
  induction entries generalizing v with
  | nil => rfl
  | cons e rest ih =>
    have hfirst : v.write? e.1 e.2 = .ok (v.insert e.1.encode (Rows.jsonText e.2)) :=
      if_pos (h e List.mem_cons_self)
    rw [writeAll?, hfirst]
    exact ih (v.insert e.1.encode (Rows.jsonText e.2)) fun e' he' =>
      h e' (List.mem_cons_of_mem e he')

theorem short_of_writeAll? {v v' : Volume} {entries : List (CacheKey × Rows)}
    (h : v.writeAll? entries = .ok v') : ∀ e ∈ entries, e.1.encode.length ≤ maxKeySize := by
  induction entries generalizing v with
  | nil => exact fun e he => nomatch he
  | cons e rest ih =>
    rw [writeAll?, write?] at h
    split_ifs at h with hshort
    · intro e' he'
      rcases List.mem_cons.1 he' with rfl | he'
      · exact hshort
      · exact ih h e' he'

end Volume

/-! ## Storage -/

namespace Storage

/-- The storage can take the batch: no key is too long for it. -/
def Takes : Storage → CommitBatch → Prop
  | memory _, _ => True
  | volume _, batch => ∀ e ∈ batch.entries, e.1.encode.length ≤ Volume.maxKeySize

theorem eq_memory_of_applyBatch {entries : Table CacheKey Rows} {batch : CommitBatch}
    {st : Storage} (h : (memory entries).applyBatch batch = .ok st) :
    ∃ entries', st = memory entries' := by
  unfold applyBatch at h
  split_ifs at h
  · exact ⟨_, (Except.ok.inj h).symm⟩
  · exact ⟨_, (Except.ok.inj h).symm⟩

theorem exists_of_insertAll? {v : Volume} {entries : List (CacheKey × Rows)} {st : Storage}
    (h : (volume v).insertAll? entries = .ok st) :
    ∃ v', v.writeAll? entries = .ok v' ∧ st = volume v' := by
  rw [insertAll?] at h
  cases hwrite : v.writeAll? entries with
  | error e =>
    rw [hwrite] at h
    cases h
  | ok v' =>
    rw [hwrite] at h
    exact ⟨v', rfl, (Except.ok.inj h).symm⟩

theorem eq_volume_of_applyBatch {v : Volume} {batch : CommitBatch} {st : Storage}
    (h : (volume v).applyBatch batch = .ok st) : ∃ v', st = volume v' := by
  unfold applyBatch at h
  split_ifs at h
  · obtain ⟨v', _, hst⟩ := exists_of_insertAll? (v := .empty) h
    exact ⟨v', hst⟩
  · obtain ⟨v', _, hst⟩ := exists_of_insertAll? h
    exact ⟨v', hst⟩

theorem exists_applyBatch_iff (st : Storage) (batch : CommitBatch) :
    (∃ st', st.applyBatch batch = .ok st') ↔ st.Takes batch := by
  unfold applyBatch
  cases st with
  | memory entries =>
    refine ⟨fun _ => trivial, fun _ => ?_⟩
    split_ifs <;> exact ⟨_, rfl⟩
  | volume v =>
    have hcleared : ∃ v' : Volume, (if batch.clear then (volume v).clear else volume v) =
        volume v' := by
      split_ifs <;> exact ⟨_, rfl⟩
    obtain ⟨v', hv'⟩ := hcleared
    rw [hv']
    constructor
    · rintro ⟨st', h⟩
      obtain ⟨v'', hwrite, _⟩ := exists_of_insertAll? h
      exact Volume.short_of_writeAll? hwrite
    · intro h
      exact ⟨_, congrArg (Except.map volume) (v'.writeAll?_of_short h)⟩

theorem contains_insertAll? {st st' : Storage} {entries : List (CacheKey × Rows)}
    (hok : st.insertAll? entries = .ok st') {key : CacheKey} (h : st'.contains key = true) :
    st.contains key = true ∨ ∃ rows, (key, rows) ∈ entries := by
  cases st with
  | memory table =>
    cases hok
    exact Table.contains_insertAll h
  | volume v =>
    obtain ⟨v', hwrite, rfl⟩ := exists_of_insertAll? hok
    have hshort := Volume.short_of_writeAll? hwrite
    rw [Volume.writeAll?_of_short v hshort] at hwrite
    cases hwrite
    rcases Table.contains_insertAll h with hkey | ⟨text, htext⟩
    · exact .inl hkey
    · obtain ⟨e, he, heq⟩ := List.mem_map.1 htext
      obtain rfl : e.1 = key :=
        Volume.eq_of_short_of_encode_eq (hshort e he) (congrArg Prod.fst heq)
      exact .inr ⟨e.2, he⟩

theorem contains_of_get? {st : Storage} {key : CacheKey} {rows : Rows}
    (h : st.get? key = .ok (some rows)) : st.contains key = true := by
  cases st with
  | memory entries =>
    have hrows : entries.get? key = some rows := Except.ok.inj h
    exact congrArg Option.isSome hrows
  | volume v =>
    unfold get? Volume.read? at h
    unfold contains Table.contains
    dsimp only at h ⊢
    cases htext : v.get? key.encode with
    | none =>
      rw [htext] at h
      cases h
    | some text => rfl

theorem contains_clear (st : Storage) (key : CacheKey) : st.clear.contains key = false := by
  cases st <;> rfl

/-- What is held after a batch was put by it, or held before and not cleared. -/
theorem contains_applyBatch {st st' : Storage} {batch : CommitBatch}
    (hok : st.applyBatch batch = .ok st') {key : CacheKey} (h : st'.contains key = true) :
    batch.Puts key ∨ (batch.clear = false ∧ st.contains key = true) := by
  unfold applyBatch at hok
  cases hclear : batch.clear with
  | false =>
    rw [hclear] at hok
    exact (contains_insertAll? hok h).elim (fun hkey => .inr ⟨rfl, hkey⟩) .inl
  | true =>
    rw [hclear] at hok
    refine (contains_insertAll? hok h).elim (fun hkey => ?_) .inl
    rw [if_pos rfl, contains_clear] at hkey
    cases hkey

/-- A batch that only clears leaves nothing. -/
theorem size_of_applyBatch {st st' : Storage} {batch : CommitBatch} (hclear : batch.clear = true)
    (hentries : batch.entries = []) (hok : st.applyBatch batch = .ok st') : st'.size = 0 := by
  unfold applyBatch at hok
  rw [if_pos hclear, hentries] at hok
  cases st with
  | memory entries => exact Except.ok.inj hok ▸ rfl
  | volume v => exact Except.ok.inj hok ▸ rfl

/-- A relation between a volume and a table that starting afresh and writing the entries of a batch
keep up is kept up by the batch. -/
theorem applyBatch_related {R : Volume → Table CacheKey Rows → Prop} {batch : CommitBatch}
    (hempty : R .empty .empty)
    (hwrite : ∀ v table, R v table →
      ∃ v', v.writeAll? batch.entries = .ok v' ∧ R v' (table.insertAll batch.entries))
    {v : Volume} {table : Table CacheKey Rows} (h : R v table) :
    ∃ v' table', (volume v).applyBatch batch = .ok (volume v') ∧
      (memory table).applyBatch batch = .ok (memory table') ∧ R v' table' := by
  unfold applyBatch
  cases batch.clear with
  | true =>
    obtain ⟨v', hok, hrelated⟩ := hwrite _ _ hempty
    exact ⟨v', _, congrArg (Except.map volume) hok, rfl, hrelated⟩
  | false =>
    obtain ⟨v', hok, hrelated⟩ := hwrite _ _ h
    exact ⟨v', _, congrArg (Except.map volume) hok, rfl, hrelated⟩

end Storage

/-! ## Layouts of stores -/

namespace RegionStore

variable {s t u : RegionStore} {r r' : RegionRef} {batch : CommitBatch}

/-- The directory that a region keeps its entries in, unless it keeps them in memory. -/
def directory? (s : RegionStore) (r : RegionRef) : Option Directory :=
  match (s.region r).backing with
  | .own _ => none
  | .shared d => some d

/-- Two references to the same entries. -/
def Shares (s : RegionStore) (r r' : RegionRef) : Prop :=
  r.slot = r'.slot ∨ ∃ d, s.directory? r = some d ∧ s.directory? r' = some d

/-- The region takes the batch. -/
def Accepts (s : RegionStore) (r : RegionRef) (batch : CommitBatch) : Prop :=
  (s.apply r batch).1 = .ok ()

/-- The same regions over the same kinds of storage, with the same calls refused. -/
structure SameLayout (s t : RegionStore) : Prop where
  length : s.regions.length = t.regions.length
  directory? : ∀ r, s.directory? r = t.directory? r
  refusing : ∀ r, (s.region r).refusing = (t.region r).refusing

theorem backing_of_directory?_none (h : s.directory? r = none) :
    ∃ entries, (s.region r).backing = .own entries := by
  unfold directory? at h
  cases hbacking : (s.region r).backing with
  | own entries => exact ⟨entries, rfl⟩
  | shared d => simp [hbacking] at h

theorem backing_of_directory?_some {d : Directory} (h : s.directory? r = some d) :
    (s.region r).backing = .shared d := by
  unfold directory? at h
  cases hbacking : (s.region r).backing with
  | own entries => simp [hbacking] at h
  | shared d' =>
    rw [hbacking] at h
    exact congrArg Backing.shared (Option.some.inj h)

theorem storage_of_own {entries : Table CacheKey Rows} (h : (s.region r).backing = .own entries) :
    s.storage r = .memory entries := by
  unfold storage
  rw [h]

theorem storage_of_shared {d : Directory} (h : (s.region r).backing = .shared d) :
    s.storage r = .volume ((s.volumes.get? d).getD .empty) := by
  unfold storage
  rw [h]

theorem directory?_of_memory {entries : Table CacheKey Rows} (h : s.storage r = .memory entries) :
    s.directory? r = none := by
  cases hd : s.directory? r with
  | none => rfl
  | some d =>
    rw [storage_of_shared (backing_of_directory?_some hd)] at h
    cases h

namespace SameLayout

theorem refl (s : RegionStore) : s.SameLayout s :=
  ⟨rfl, fun _ => rfl, fun _ => rfl⟩

theorem symm (h : s.SameLayout t) : t.SameLayout s :=
  ⟨h.length.symm, fun r => (h.directory? r).symm, fun r => (h.refusing r).symm⟩

theorem trans (h : s.SameLayout t) (h' : t.SameLayout u) : s.SameLayout u :=
  ⟨h.length.trans h'.length, fun r => (h.directory? r).trans (h'.directory? r),
    fun r => (h.refusing r).trans (h'.refusing r)⟩

theorem of_sameEntries (h : s.SameEntries t) : s.SameLayout t := by
  refine ⟨h.length, fun r => ?_, h.refusing⟩
  unfold RegionStore.directory?
  rw [h.backing]

theorem refuses (h : s.SameLayout t) (r : RegionRef) (call : RegionCall) :
    s.refuses r call = t.refuses r call := by
  unfold RegionStore.refuses
  rw [h.refusing r]

theorem shares (h : s.SameLayout t) : s.Shares r r' ↔ t.Shares r r' := by
  unfold Shares
  rw [h.directory? r, h.directory? r']

theorem takes (h : s.SameLayout t) (r : RegionRef) (batch : CommitBatch) :
    (s.storage r).Takes batch ↔ (t.storage r).Takes batch := by
  have hdirectory := h.directory? r
  cases ht : t.directory? r with
  | none =>
    obtain ⟨entries, hs⟩ := backing_of_directory?_none (hdirectory.trans ht)
    obtain ⟨entries', ht'⟩ := backing_of_directory?_none ht
    rw [storage_of_own hs, storage_of_own ht']
    exact Iff.rfl
  | some d =>
    rw [storage_of_shared (backing_of_directory?_some (hdirectory.trans ht)),
      storage_of_shared (backing_of_directory?_some ht)]
    exact Iff.rfl

end SameLayout

theorem accepts_iff (s : RegionStore) (r : RegionRef) (batch : CommitBatch) :
    s.Accepts r batch ↔ s.refuses r .apply = false ∧ (s.storage r).Takes batch := by
  rw [← Storage.exists_applyBatch_iff]
  unfold Accepts apply
  cases hrefuses : s.refuses r .apply with
  | true => simp [refusal, failure]
  | false =>
    rw [if_neg Bool.false_ne_true]
    cases (s.storage r).applyBatch batch with
    | error e => simp
    | ok st => simp

theorem SameLayout.accepts (h : s.SameLayout t) :
    s.Accepts r batch ↔ t.Accepts r batch := by
  rw [accepts_iff, accepts_iff, h.refuses, h.takes]

theorem InMemory.accepts (h : s.InMemory r) (batch : CommitBatch) : s.Accepts r batch := by
  obtain ⟨entries, hown⟩ := h.own
  rw [accepts_iff, storage_of_own hown]
  exact ⟨h.refuses_eq .apply, trivial⟩

theorem InMemory.of_slot (h : s.InMemory r) (hslot : r'.slot = r.slot) : s.InMemory r' := by
  have hregion : s.region r' = s.region r := by
    unfold region
    rw [hslot]
  exact ⟨hslot ▸ h.opened, hregion ▸ h.own, hregion ▸ h.willing⟩

theorem InMemory.of_sameLayout (h : t.InMemory r) (hs : s.SameLayout t) : s.InMemory r := by
  obtain ⟨entries, hown⟩ := h.own
  have hdirectory : t.directory? r = none := by
    unfold directory?
    rw [hown]
  exact ⟨hs.length ▸ h.opened, backing_of_directory?_none ((hs.directory? r).trans hdirectory),
    (hs.refusing r).trans h.willing⟩

/-! ## Putting a batch into a store -/

theorem sameLayout_setStorage (s : RegionStore) (r : RegionRef) (st : Storage) :
    (s.setStorage r st).SameLayout s := by
  unfold setStorage
  split
  · rename_i entries' hbacking
    refine ⟨by simp [setRegion], fun r' => ?_, fun r' => ?_⟩
    · unfold directory?
      rw [region_setRegion]
      split_ifs with hslot
      · have hregion : s.region r' = s.region r := by
          unfold region
          rw [hslot.1]
        rw [hregion, hbacking]
      · rfl
    · rw [region_setRegion]
      split_ifs with hslot
      · unfold region
        rw [hslot.1]
      · rfl
  · exact ⟨rfl, fun _ => rfl, fun _ => rfl⟩
  · exact .refl s

theorem apply_of_accepts (h : s.Accepts r batch) :
    ∃ st, (s.storage r).applyBatch batch = .ok st ∧
      (s.apply r batch).2.SameEntries (s.setStorage r st) := by
  obtain ⟨hrefuses, htakes⟩ := (accepts_iff s r batch).1 h
  obtain ⟨st, happly⟩ := (Storage.exists_applyBatch_iff _ _).2 htakes
  refine ⟨st, happly, ?_⟩
  unfold apply
  rw [hrefuses, if_neg Bool.false_ne_true, happly]
  dsimp only
  exact .modifyStats_left (s.setStorage r st) r _

theorem apply_of_not_accepts (h : ¬ s.Accepts r batch) : (s.apply r batch).2 = s := by
  unfold Accepts at h
  unfold apply at h ⊢
  cases hrefuses : s.refuses r .apply with
  | true => rfl
  | false =>
    rw [hrefuses, if_neg Bool.false_ne_true] at h
    rw [if_neg Bool.false_ne_true]
    cases hbatch : (s.storage r).applyBatch batch with
    | error e => rfl
    | ok st =>
      rw [hbatch] at h
      exact absurd rfl h

theorem sameLayout_apply (s : RegionStore) (r : RegionRef) (batch : CommitBatch) :
    (s.apply r batch).2.SameLayout s := by
  by_cases h : s.Accepts r batch
  · obtain ⟨st, _, hsame⟩ := apply_of_accepts h
    exact (SameLayout.of_sameEntries hsame).trans (s.sameLayout_setStorage r st)
  · rw [apply_of_not_accepts h]
    exact .refl s

theorem setStorage_own {entries entries' : Table CacheKey Rows}
    (h : (s.region r).backing = .own entries) :
    s.setStorage r (.memory entries') =
      s.setRegion r { s.region r with backing := .own entries' } := by
  unfold setStorage
  rw [h]

theorem region_setStorage_volume (s : RegionStore) (r r' : RegionRef) (v : Volume) :
    (s.setStorage r (.volume v)).region r' = s.region r' := by
  unfold setStorage
  cases (s.region r).backing <;> rfl

theorem volumes_setStorage_volume {d : Directory} (v : Volume)
    (h : (s.region r).backing = .shared d) :
    (s.setStorage r (.volume v)).volumes = s.volumes.insert d v := by
  unfold setStorage
  rw [h]

/-- The entries of a region change only with those of a region that it shares its storage with. -/
theorem storage_setStorage_of_not_shares (h : ¬ s.Shares r r') (st : Storage) :
    (s.setStorage r st).storage r' = s.storage r' := by
  cases hd : s.directory? r with
  | none =>
    obtain ⟨entries, hown⟩ := backing_of_directory?_none hd
    cases st with
    | volume v =>
      unfold setStorage
      rw [hown]
    | memory entries' =>
      have hslot : ¬ (r.slot = r'.slot ∧ r.slot < s.regions.length) := fun hand => h (.inl hand.1)
      rw [setStorage_own hown]
      unfold storage
      rw [region_setRegion, if_neg hslot]
      rfl
  | some d =>
    have hshared := backing_of_directory?_some hd
    cases st with
    | memory entries' =>
      unfold setStorage
      rw [hshared]
    | volume v =>
      have hregion := s.region_setStorage_volume r r' v
      cases hd' : s.directory? r' with
      | none =>
        obtain ⟨entries, hown⟩ := backing_of_directory?_none hd'
        rw [storage_of_own hown, storage_of_own (hregion ▸ hown)]
      | some d' =>
        have hshared' := backing_of_directory?_some hd'
        have hne : d' ≠ d := by
          rintro rfl
          exact h (.inr ⟨d', hd, hd'⟩)
        rw [storage_of_shared hshared', storage_of_shared (hregion ▸ hshared'),
          volumes_setStorage_volume v hshared, Table.get?_insert_of_ne _ _ hne]

theorem storage_eq_of_shares (h : s.Shares r r') : s.storage r' = s.storage r := by
  rcases h with hslot | ⟨d, hd, hd'⟩
  · unfold storage region
    rw [hslot]
  · rw [storage_of_shared (backing_of_directory?_some hd),
      storage_of_shared (backing_of_directory?_some hd')]

theorem Shares.of_slot {r₁ : RegionRef} (h : s.Shares r r') (hslot : r₁.slot = r.slot) :
    s.Shares r₁ r' := by
  rcases h with hself | ⟨d, hd, hd'⟩
  · exact .inl (hslot.trans hself)
  · refine .inr ⟨d, ?_, hd'⟩
    unfold directory? region at hd ⊢
    rw [hslot]
    exact hd

theorem shares_setRefusing (calls : List RegionCall) {r₁ : RegionRef} :
    (s.setRefusing r₁ calls).Shares r r' ↔ s.Shares r r' := by
  unfold Shares directory?
  rw [backing_setRefusing, backing_setRefusing]

theorem storage_of_length_le (h : s.regions.length ≤ r.slot) : s.storage r = .memory .empty := by
  refine storage_of_own ?_
  rw [region_of_length_le h]

theorem storage_setStorage_own {entries entries' : Table CacheKey Rows}
    (h : (s.region r).backing = .own entries) (hr : r.slot < s.regions.length) :
    (s.setStorage r (.memory entries')).storage r = .memory entries' := by
  refine storage_of_own ?_
  rw [setStorage_own h, region_setRegion, if_pos ⟨rfl, hr⟩]

theorem storage_setStorage_shared {d : Directory} (h : (s.region r).backing = .shared d)
    (v : Volume) : (s.setStorage r (.volume v)).storage r = .volume v := by
  rw [storage_of_shared (s.region_setStorage_volume r r v ▸ h), volumes_setStorage_volume v h,
    Table.get?_insert_self]
  rfl

/-- What a batch makes of the entries of an open region can be put in their place. -/
theorem storage_setStorage_self {st : Storage} {batch : CommitBatch}
    (hst : (s.storage r).applyBatch batch = .ok st) (hopen : r.slot < s.regions.length) :
    (s.setStorage r st).storage r = st := by
  cases hd : s.directory? r with
  | none =>
    obtain ⟨entries, hown⟩ := backing_of_directory?_none hd
    rw [storage_of_own hown] at hst
    obtain ⟨entries', rfl⟩ := Storage.eq_memory_of_applyBatch hst
    exact storage_setStorage_own hown hopen
  | some d =>
    have hshared := backing_of_directory?_some hd
    rw [storage_of_shared hshared] at hst
    obtain ⟨v, rfl⟩ := Storage.eq_volume_of_applyBatch hst
    exact storage_setStorage_shared hshared v

/-- A region has the entries that are set, or none if it is not open. -/
theorem storage_setStorage_of_takes {st : Storage} {batch : CommitBatch}
    (hst : (s.storage r).applyBatch batch = .ok st) :
    (s.setStorage r st).storage r = st ∨ (s.setStorage r st).storage r = .memory .empty := by
  by_cases hopen : r.slot < s.regions.length
  · exact .inl (storage_setStorage_self hst hopen)
  · have hlength := (s.sameLayout_setStorage r st).length
    exact .inr (storage_of_length_le (hlength ▸ Nat.le_of_not_lt hopen))

/-- A batch leaves the entries of regions alone that do not share those of its own region. -/
theorem storage_apply_of_not_shares (h : ¬ s.Shares r r') (batch : CommitBatch) :
    (s.apply r batch).2.storage r' = s.storage r' := by
  by_cases haccepts : s.Accepts r batch
  · obtain ⟨st, _, hsame⟩ := apply_of_accepts haccepts
    rw [hsame.storage r', storage_setStorage_of_not_shares h]
  · rw [apply_of_not_accepts haccepts]

/-- A batch leaves what it makes of the entries of its region in all that share them. -/
theorem storage_apply_of_shares (haccepts : s.Accepts r batch) (h : s.Shares r r') :
    ∃ st, (s.storage r).applyBatch batch = .ok st ∧
      (s.apply r batch).2.storage r' = (s.setStorage r st).storage r := by
  obtain ⟨st, hst, hsame⟩ := apply_of_accepts haccepts
  refine ⟨st, hst, ?_⟩
  rw [hsame.storage r', storage_eq_of_shares ((s.sameLayout_setStorage r st).shares.2 h)]

/-- What a region holds after a batch was put by it, or held before and not cleared. -/
theorem contains_apply {key : CacheKey} (h : ((s.apply r batch).2.storage r').contains key = true) :
    (s.Accepts r batch ∧ s.Shares r r' ∧ batch.Puts key) ∨
      ((s.storage r').contains key = true ∧
        (s.Accepts r batch → s.Shares r r' → batch.clear = false)) := by
  by_cases haccepts : s.Accepts r batch
  · by_cases hshares : s.Shares r r'
    · obtain ⟨st, hst, hstorage⟩ := storage_apply_of_shares haccepts hshares
      rw [hstorage] at h
      rcases storage_setStorage_of_takes hst with hset | hset
      · rw [hset] at h
        rcases Storage.contains_applyBatch hst h with hputs | ⟨hclear, hkey⟩
        · exact .inl ⟨haccepts, hshares, hputs⟩
        · exact .inr ⟨storage_eq_of_shares hshares ▸ hkey, fun _ _ => hclear⟩
      · rw [hset] at h
        cases h
    · rw [storage_apply_of_not_shares hshares] at h
      exact .inr ⟨h, fun _ h' => absurd h' hshares⟩
  · rw [apply_of_not_accepts haccepts] at h
    exact .inr ⟨h, fun h' => absurd h' haccepts⟩

/-- A region finds only what it holds. -/
theorem hit_of_slot {key : CacheKey} {rows : Rows} (hslot : r.slot = r'.slot)
    (h : (s.get r' key).1 = .ok (.hit rows)) : (s.get r key).1 = .ok (.hit rows) := by
  have hregion : s.region r = s.region r' := by
    unfold region
    rw [hslot]
  have hrefuses : s.refuses r .get = s.refuses r' .get := by
    unfold refuses
    rw [hregion]
  unfold get at h ⊢
  rw [hrefuses, ← storage_eq_of_shares (.inl hslot)]
  split_ifs at h ⊢
  cases hget : (s.storage r').get? key with
  | error e =>
    rw [hget] at h
    cases h
  | ok rows? =>
    rw [hget] at h
    exact h

theorem contains_of_hit {key : CacheKey} {rows : Rows} (h : (s.get r key).1 = .ok (.hit rows)) :
    (s.storage r).contains key = true := by
  unfold get at h
  split_ifs at h
  cases hfound : (s.storage r).get? key with
  | error e =>
    rw [hfound] at h
    cases h
  | ok rows? =>
    rw [hfound] at h
    cases rows? with
    | none => cases h
    | some rows' => exact Storage.contains_of_get? hfound

end RegionStore

end DataMapper
