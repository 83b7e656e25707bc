import DataMapper.Proofs.Region.Batches
/-!
# Requests to regions

The calls on a region as data. What a region answers, and what it keeps afterwards, is decided by
its storage alone, as long as it is open and refuses no call.
-/

namespace DataMapper

/-- A call on a region. -/
inductive RegionRequest where
  | get (key : CacheKey)
  | put (key : CacheKey) (rows : Rows)
  | remove (key : CacheKey)
  | clear
  | len
  | apply (batch : CommitBatch)

/-- The answer to a call that succeeds. -/
inductive RegionReply where
  | done
  | found (lookup : Lookup)
  | removed (present : Bool)
  | counted (entries : Nat)
  deriving DecidableEq

/-- The call is meant to change what the region keeps. -/
def RegionRequest.isWrite : RegionRequest → Bool
  | get _ => false
  | len => false
  | _ => true

/-! ## Storage -/

namespace Storage

/-- Answers a call. A call that fails leaves the storage as it is. -/
def serve (st : Storage) : RegionRequest → Except VolumeError RegionReply × Storage
  | .get key =>
    match st.get? key with
    | .error e => (.error e, st)
    | .ok rows? => (.ok (.found (.ofOption rows?)), st)
  | .put key rows =>
    match st.insert? key rows with
    | .error e => (.error e, st)
    | .ok st' => (.ok .done, st')
  | .remove key => (.ok (.removed (st.contains key)), st.erase key)
  | .clear => (.ok .done, st.clear)
  | .len => (.ok (.counted st.size), st)
  | .apply batch =>
    match st.applyBatch batch with
    | .error e => (.error e, st)
    | .ok st' => (.ok .done, st')

/-- Both in memory, or both on volumes. -/
inductive SameKind : Storage → Storage → Prop where
  | memory (entries entries' : Table CacheKey Rows) : SameKind (memory entries) (memory entries')
  | volume (v v' : Volume) : SameKind (volume v) (volume v')

theorem sameKind_of_insert? {st st' : Storage} {key : CacheKey} {rows : Rows}
    (h : st.insert? key rows = .ok st') : st.SameKind st' := by
  cases st with
  | memory entries =>
    cases h
    exact .memory entries _
  | volume v =>
    rw [insert?] at h
    cases hwrite : v.write? key rows with
    | error e =>
      rw [hwrite] at h
      cases h
    | ok v' =>
      rw [hwrite] at h
      cases h
      exact .volume v v'

theorem sameKind_of_applyBatch {st st' : Storage} {batch : CommitBatch}
    (h : st.applyBatch batch = .ok st') : st.SameKind st' := by
  cases st with
  | memory entries =>
    obtain ⟨entries', rfl⟩ := eq_memory_of_applyBatch h
    exact .memory entries entries'
  | volume v =>
    obtain ⟨v', rfl⟩ := eq_volume_of_applyBatch h
    exact .volume v v'

theorem sameKind_erase (st : Storage) (key : CacheKey) : st.SameKind (st.erase key) := by
  cases st with
  | memory entries => exact .memory entries _
  | volume v => exact .volume v _

theorem sameKind_clear (st : Storage) : st.SameKind st.clear := by
  cases st with
  | memory entries => exact .memory entries _
  | volume v => exact .volume v _

end Storage

/-! ## Regions in a store -/

namespace RegionStore

variable {s : RegionStore} {r : RegionRef} {st : Storage}

/-- Answers a call on a region. -/
def serve (s : RegionStore) (r : RegionRef) :
    RegionRequest → Except Error RegionReply × RegionStore
  | .get key => ((s.get r key).1.map .found, (s.get r key).2)
  | .put key rows => ((s.put r key rows).1.map fun _ => .done, (s.put r key rows).2)
  | .remove key => ((s.remove r key).1.map .removed, (s.remove r key).2)
  | .clear => ((s.clear r).1.map fun _ => .done, (s.clear r).2)
  | .len => ((s.len r).map .counted, s)
  | .apply batch => ((s.apply r batch).1.map fun _ => .done, (s.apply r batch).2)

/-- The region is open, refuses no call, and keeps the storage. -/
structure Keeps (s : RegionStore) (r : RegionRef) (st : Storage) : Prop where
  opened : r.slot < s.regions.length
  willing : (s.region r).refusing = []
  storage : s.storage r = st

namespace Keeps

theorem refuses (h : s.Keeps r st) (call : RegionCall) : ¬ s.refuses r call = true := by
  simp [RegionStore.refuses, h.willing]

theorem modifyStats (h : s.Keeps r st) (f : CacheStats → CacheStats) :
    (s.modifyStats r f).Keeps r st := by
  have hsame := SameEntries.modifyStats_left s r f
  exact ⟨hsame.length ▸ h.opened, (hsame.refusing r).trans h.willing,
    (hsame.storage r).trans h.storage⟩

theorem setStorage (h : s.Keeps r st) {st' : Storage} (hkind : st.SameKind st') :
    (s.setStorage r st').Keeps r st' := by
  have hlayout := s.sameLayout_setStorage r st'
  refine ⟨hlayout.length ▸ h.opened, (hlayout.refusing r).trans h.willing, ?_⟩
  cases hkind with
  | memory entries entries' =>
    obtain ⟨_, hown⟩ := backing_of_directory?_none (directory?_of_memory h.storage)
    exact storage_setStorage_own hown h.opened
  | volume v v' =>
    cases hd : s.directory? r with
    | none =>
      obtain ⟨_, hown⟩ := backing_of_directory?_none hd
      cases (storage_of_own hown).symm.trans h.storage
    | some d => exact storage_setStorage_shared (backing_of_directory?_some hd) v'

/-- A region answers as its storage does, and keeps what becomes of it. -/
theorem serve (h : s.Keeps r st) (q : RegionRequest) :
    (s.serve r q).1 = (st.serve q).1.mapError (fun e => failure r e.message) ∧
      (s.serve r q).2.Keeps r (st.serve q).2 := by
  cases q with
  | get key =>
    rw [RegionStore.serve, RegionStore.get, if_neg (h.refuses .get), h.storage, Storage.serve]
    cases st.get? key with
    | error e => exact ⟨rfl, h⟩
    | ok rows? =>
      dsimp only [RegionStore.recordLookup]
      exact ⟨rfl, h.modifyStats _⟩
  | put key rows =>
    rw [RegionStore.serve, RegionStore.put, if_neg (h.refuses .put), h.storage, Storage.serve]
    cases hput : st.insert? key rows with
    | error e => exact ⟨rfl, h⟩
    | ok st' => exact ⟨rfl, h.setStorage (Storage.sameKind_of_insert? hput)⟩
  | remove key =>
    rw [RegionStore.serve, RegionStore.remove, if_neg (h.refuses .remove), h.storage,
      Storage.serve]
    exact ⟨rfl, h.setStorage (st.sameKind_erase key)⟩
  | clear =>
    rw [RegionStore.serve, RegionStore.clear, if_neg (h.refuses .clear), h.storage, Storage.serve]
    dsimp only
    exact ⟨rfl, (h.setStorage st.sameKind_clear).modifyStats _⟩
  | len =>
    rw [RegionStore.serve, RegionStore.len, if_neg (h.refuses .len), h.storage, Storage.serve]
    exact ⟨rfl, h⟩
  | apply batch =>
    rw [RegionStore.serve, RegionStore.apply, if_neg (h.refuses .apply), h.storage, Storage.serve]
    cases happly : st.applyBatch batch with
    | error e => exact ⟨rfl, h⟩
    | ok st' =>
      dsimp only
      exact ⟨rfl, (h.setStorage (Storage.sameKind_of_applyBatch happly)).modifyStats _⟩

end Keeps

/-- A call succeeds, or it leaves the store as it is. -/
theorem succeeds_or_leaves (s : RegionStore) (r : RegionRef) (q : RegionRequest) :
    (∃ reply, (s.serve r q).1 = .ok reply) ∨ (s.serve r q).2 = s := by
  cases q with
  | get key =>
    rw [serve, get]
    split_ifs
    · exact .inr rfl
    · cases (s.storage r).get? key with
      | error e => exact .inr rfl
      | ok rows? => exact .inl ⟨_, rfl⟩
  | put key rows =>
    rw [serve, put]
    split_ifs
    · exact .inr rfl
    · cases (s.storage r).insert? key rows with
      | error e => exact .inr rfl
      | ok st => exact .inl ⟨_, rfl⟩
  | remove key =>
    rw [serve, remove]
    split_ifs
    · exact .inr rfl
    · exact .inl ⟨_, rfl⟩
  | clear =>
    rw [serve, clear]
    split_ifs
    · exact .inr rfl
    · exact .inl ⟨_, rfl⟩
  | len => exact .inr rfl
  | apply batch =>
    by_cases haccepts : s.Accepts r batch
    · exact .inl ⟨_, congrArg (Except.map fun _ => RegionReply.done) haccepts⟩
    · exact .inr (apply_of_not_accepts haccepts)

theorem serve_of_error {q : RegionRequest} {e : Error} (h : (s.serve r q).1 = .error e) :
    (s.serve r q).2 = s := by
  rcases s.succeeds_or_leaves r q with ⟨reply, hreply⟩ | hsame
  · cases hreply.symm.trans h
  · exact hsame

end RegionStore

end DataMapper
