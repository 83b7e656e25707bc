import DataMapper.Proofs.Region.Persistence
import DataMapper.Proofs.Staging.Batches
/-!
# Entries of regions

A property of entries that all regions have, and all entries of a batch, is a property of what the
regions hold once the batch has been applied. A volume holds the texts of its entries, and reads no
other rows from them.
-/

namespace DataMapper

/-- A property of entries, each under a region. -/
abbrev EntryProperty := RegionRef → CacheKey → Rows → Prop

/-! ## Storage -/

namespace Storage

variable {st st' : Storage} {Q Q' : CacheKey → Rows → Prop}

/-- Every entry has the property. A volume holds nothing but entries with it, as bytes and text. -/
def Only (Q : CacheKey → Rows → Prop) : Storage → Prop
  | memory entries => ∀ key rows, entries.get? key = some rows → Q key rows
  | volume v => ∀ bytes text, v.get? bytes = some text → ∃ key rows, Q key rows ∧
      key.encode.length ≤ Volume.maxKeySize ∧ bytes = key.encode ∧ text = Rows.jsonText rows

theorem Only.imp (h : st.Only Q) (himp : ∀ key rows, Q key rows → Q' key rows) : st.Only Q' := by
  cases st with
  | memory entries => exact fun key rows hrows => himp key rows (h key rows hrows)
  | volume v =>
    intro bytes text htext
    obtain ⟨key, rows, hq, hrest⟩ := h bytes text htext
    exact ⟨key, rows, himp key rows hq, hrest⟩

theorem only_of_size (h : st.size = 0) : st.Only Q := by
  cases st with
  | memory entries =>
    obtain rfl := Table.eq_empty_of_size_eq_zero h
    exact nofun
  | volume v =>
    obtain rfl : v = .empty := Table.eq_empty_of_size_eq_zero h
    exact nofun

theorem only_clear (st : Storage) : st.clear.Only Q := by
  cases st with
  | memory entries => exact nofun
  | volume v => exact nofun

theorem Only.insertAll_memory {t : Table CacheKey Rows} {entries : List (CacheKey × Rows)}
    (h : (memory t).Only Q) (hentries : ∀ e ∈ entries, Q e.1 e.2) :
    (memory (t.insertAll entries)).Only Q := by
  induction entries generalizing t with
  | nil => exact h
  | cons e rest ih =>
    obtain ⟨hfirst, hrest⟩ := List.forall_mem_cons.1 hentries
    exact ih (t := t.insert e.1 e.2) (Table.forall_insert hfirst h) hrest

theorem Only.writeAll_volume {v v' : Volume} {entries : List (CacheKey × Rows)}
    (h : (volume v).Only Q) (hentries : ∀ e ∈ entries, Q e.1 e.2)
    (hwrite : v.writeAll? entries = .ok v') : (volume v').Only Q := by
  induction entries generalizing v with
  | nil =>
    obtain rfl : v = v' := Except.ok.inj hwrite
    exact h
  | cons e rest ih =>
    obtain ⟨hfirst, hrest⟩ := List.forall_mem_cons.1 hentries
    rw [Volume.writeAll?, Volume.write?] at hwrite
    split_ifs at hwrite with hshort
    refine ih ?_ hrest hwrite
    exact Table.forall_insert (P := fun bytes text => ∃ key rows, Q key rows ∧
      key.encode.length ≤ Volume.maxKeySize ∧ bytes = key.encode ∧ text = Rows.jsonText rows)
      ⟨e.1, e.2, hfirst, hshort, rfl, rfl⟩ h

theorem Only.insertAll? {entries : List (CacheKey × Rows)} (h : st.Only Q)
    (hentries : ∀ e ∈ entries, Q e.1 e.2) (hok : st.insertAll? entries = .ok st') :
    st'.Only Q := by
  cases st with
  | memory table =>
    cases hok
    exact h.insertAll_memory hentries
  | volume v =>
    obtain ⟨v', hwrite, rfl⟩ := exists_of_insertAll? hok
    exact h.writeAll_volume hentries hwrite

theorem Only.applyBatch {batch : CommitBatch} (h : st.Only Q)
    (hbatch : ∀ e ∈ batch.entries, Q e.1 e.2) (hok : st.applyBatch batch = .ok st') :
    st'.Only Q := by
  unfold Storage.applyBatch at hok
  split_ifs at hok
  · exact (only_clear st).insertAll? hbatch hok
  · exact h.insertAll? hbatch hok

/-- What is found was put with the property. A volume reads the rows that were put, as long as
their maps are in the order of their names. -/
theorem Only.of_get? (h : st.Only Q) {key : CacheKey} {rows : Rows}
    (hget : st.get? key = .ok (some rows)) :
    ∃ rows', Q key rows' ∧ (Value.OrderedItems rows' → rows' = rows) := by
  cases st with
  | memory entries => exact ⟨rows, h key rows (Except.ok.inj hget), fun _ => rfl⟩
  | volume v =>
    unfold get? Volume.read? at hget
    dsimp only at hget
    cases htext : v.get? key.encode with
    | none =>
      rw [htext] at hget
      cases hget
    | some text =>
      obtain ⟨key', rows', hq, hshort, hbytes, rfl⟩ := h _ text htext
      obtain rfl : key' = key := Volume.eq_of_short_of_encode_eq hshort hbytes.symm
      refine ⟨rows', hq, fun hordered => ?_⟩
      rw [htext] at hget
      dsimp only at hget
      by_cases hdepth : Rows.nesting rows' ≤ Json.maxDepth
      · rw [Rows.parse?_jsonText hordered hdepth] at hget
        exact Option.some.inj (Except.ok.inj hget)
      · rw [Rows.parse?_jsonText_of_deep (Nat.lt_of_not_le hdepth)] at hget
        cases hget

end Storage

/-! ## Stores -/

namespace RegionStore

variable {s t : RegionStore} {Q : EntryProperty} {r : RegionRef} {batch : CommitBatch}

/-- Every entry of every region has the property. -/
def Only (Q : EntryProperty) (s : RegionStore) : Prop :=
  ∀ r, (s.storage r).Only (Q r)

theorem Only.of_storage (h : t.Only Q) (hstorage : ∀ r, s.storage r = t.storage r) :
    s.Only Q := by
  intro r
  rw [hstorage r]
  exact h r

theorem Only.apply (h : s.Only Q)
    (hbatch : ∀ e ∈ batch.entries, ∀ r', s.Shares r r' → Q r' e.1 e.2) :
    (s.apply r batch).2.Only Q := by
  by_cases haccepts : s.Accepts r batch
  · intro r'
    by_cases hshares : s.Shares r r'
    · obtain ⟨st, hst, hstorage⟩ := storage_apply_of_shares haccepts hshares
      rw [hstorage]
      rcases storage_setStorage_of_takes hst with hset | hset
      · rw [hset]
        refine Storage.Only.applyBatch ?_ (fun e he => hbatch e he r' hshares) hst
        rw [← storage_eq_of_shares hshares]
        exact h r'
      · rw [hset]
        exact Storage.only_of_size rfl
    · rw [storage_apply_of_not_shares hshares]
      exact h r'
  · rw [apply_of_not_accepts haccepts]
    exact h

end RegionStore

/-! ## Published views -/

/-- Every staged entry has the property, for all regions that share the storage of its own one. -/
def Staged.Only (Q : EntryProperty) (store : RegionStore) (v : Staged) : Prop :=
  ∀ key rows, v.staged.get? key = some rows → ∀ r, store.Shares v.region r → Q r key rows

theorem Staged.Only.publish {v : Staged} {Q : EntryProperty} {store : RegionStore}
    (h : v.Only Q store) (hstore : store.Only Q) : (v.publish store).2.Only Q := by
  cases hempty : v.batch.isEmpty with
  | true =>
    rw [publish_of_isEmpty hempty]
    exact hstore
  | false =>
    rw [publish_of_not_isEmpty hempty]
    exact hstore.apply fun e he r hshares =>
      h e.1 e.2 ((Table.get?_eq_some_iff v.staged).2 he) r hshares

theorem UnitOfWork.only_publishAll {views : List (String × Staged)} {Q : EntryProperty}
    {store : RegionStore} (hviews : ∀ e ∈ views, e.2.Only Q store) (hstore : store.Only Q) :
    (publishAll views store).2.Only Q := by
  induction views generalizing store with
  | nil => exact hstore
  | cons e rest ih =>
    obtain ⟨hfirst, hrest⟩ := List.forall_mem_cons.1 hviews
    have hlayout := e.2.sameLayout_publish store
    rw [snd_publishAll_cons]
    refine ih (fun e' he' key rows hrows r hshares => ?_) (hfirst.publish hstore)
    exact hrest e' he' key rows hrows r (hlayout.shares.1 hshares)

end DataMapper
