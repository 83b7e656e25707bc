import DataMapper.Proofs.Region.Persistence
import DataMapper.Proofs.Region.Requests
/-!
# Answers of volumes

A region on a volume and a region in memory get the same calls, except for the writes that the
volume refuses. The volume then holds the pairs of the table in memory, written out, and every
answer that it gives is the one from memory. It refuses long keys and, when they are to be read,
rows that nest too deeply.
-/

namespace DataMapper

/-! ## Volumes that list the pairs of a table -/

namespace Volume

variable {v : Volume} {table : Table CacheKey Rows} {key : CacheKey} {rows : Rows}

/-- The volume lists the pairs of the table as they are written out. All keys are short, and all
maps in order. -/
structure Mirrors (v : Volume) (table : Table CacheKey Rows) : Prop where
  image : table.Image CacheKey.encode Rows.jsonText v
  short : ∀ key rows, table.get? key = some rows → key.encode.length ≤ maxKeySize
  ordered : ∀ key rows, table.get? key = some rows → Value.OrderedItems rows

theorem mirrors_empty : Volume.Mirrors .empty .empty where
  image := Table.Image.empty
  short := fun _ _ h => nomatch h
  ordered := fun _ _ h => nomatch h

namespace Mirrors

/-- Whatever the length of a key, it is written as no other key of the table. -/
theorem told (h : v.Mirrors table) (key : CacheKey) :
    Table.Told CacheKey.encode key table.entries := by
  intro e he hencode
  have hshort := h.short e.1 e.2 (table.get?_eq_some_iff.2 he)
  exact eq_of_short_of_encode_eq hshort hencode

theorem insert (h : v.Mirrors table) (hshort : key.encode.length ≤ maxKeySize)
    (hordered : Value.OrderedItems rows) :
    Volume.Mirrors (v.insert key.encode (Rows.jsonText rows)) (table.insert key rows) where
  image := h.image.insert (h.told key) rows
  short := Table.forall_insert (P := fun (key : CacheKey) _ => key.encode.length ≤ maxKeySize)
    hshort h.short
  ordered := Table.forall_insert (P := fun _ rows => Value.OrderedItems rows) hordered h.ordered

theorem insertAll (h : v.Mirrors table) {entries : List (CacheKey × Rows)}
    (hshort : ∀ e ∈ entries, e.1.encode.length ≤ maxKeySize)
    (hordered : ∀ e ∈ entries, Value.OrderedItems e.2) :
    Volume.Mirrors (v.insertAll (entries.map ofEntry)) (table.insertAll entries) := by
  induction entries generalizing v table with
  | nil => exact h
  | cons e rest ih =>
    obtain ⟨hfirst, hshort'⟩ := List.forall_mem_cons.1 hshort
    obtain ⟨hfirst', hordered'⟩ := List.forall_mem_cons.1 hordered
    exact ih (h.insert hfirst hfirst') hshort' hordered'

theorem erase (h : v.Mirrors table) (key : CacheKey) :
    Volume.Mirrors (v.erase key.encode) (table.erase key) where
  image := h.image.erase (h.told key)
  short := Table.forall_erase h.short
  ordered := Table.forall_erase h.ordered

theorem contains (h : v.Mirrors table) (key : CacheKey) :
    Table.contains v key.encode = table.contains key :=
  h.image.contains (h.told key)

theorem read?_of_none (h : v.Mirrors table) (hkey : table.get? key = none) :
    v.read? key = .ok none := by
  unfold read?
  rw [h.image.get? (h.told key), hkey]
  rfl

/-- What the table has under a key is read from the volume, unless it nests too deeply. -/
theorem read?_of_some (h : v.Mirrors table) (hkey : table.get? key = some rows) :
    v.read? key =
      if Json.maxDepth < Rows.nesting rows then .error .unreadableRows else .ok (some rows) := by
  have htext : v.get? key.encode = some (Rows.jsonText rows) := by
    rw [h.image.get? (h.told key), hkey]
    rfl
  split_ifs with hdepth
  · exact read?_of_deep htext hdepth
  · unfold read?
    rw [htext]
    dsimp only
    rw [Rows.parse?_jsonText (h.ordered key rows hkey) (Nat.le_of_not_lt hdepth)]

end Mirrors

end Volume

/-! ## Calls on both -/

/-- The maps of all rows that the call writes are in order. -/
def RegionRequest.Ordered : RegionRequest → Prop
  | put _ rows => Value.OrderedItems rows
  | apply batch => ∀ e ∈ batch.entries, Value.OrderedItems e.2
  | _ => True

/-- What a volume refuses that holds the rows under each key: to read rows that nest too deeply,
and to write under a long key. -/
def RegionRequest.Refused (held : Contents) : RegionRequest → Prop
  | get key => ∃ rows, held key = some rows ∧ Json.maxDepth < Rows.nesting rows
  | put key _ => Volume.maxKeySize < key.encode.length
  | apply batch => ∃ e ∈ batch.entries, Volume.maxKeySize < e.1.encode.length
  | _ => False

namespace Storage

theorem serve_snd_of_read {q : RegionRequest} (h : q.isWrite = false) (st : Storage) :
    (st.serve q).2 = st := by
  cases q with
  | get key =>
    rw [serve]
    cases st.get? key <;> rfl
  | len => rfl
  | put _ _ => cases h
  | remove _ => cases h
  | clear => cases h
  | apply _ => cases h

/-- How a call is answered by a volume and by the table in memory that it mirrors: both give the
same reply and stay alike, or the volume refuses the call and stays as it is. -/
inductive Answered (v : Volume) (table : Table CacheKey Rows) (q : RegionRequest) : Prop where
  | alike (reply : RegionReply) (v' : Volume) (table' : Table CacheKey Rows)
    (hvolume : (volume v).serve q = (.ok reply, volume v'))
    (hmemory : (memory table).serve q = (.ok reply, memory table'))
    (hmirrors : v'.Mirrors table') (hfits : ¬ q.Refused table.get?)
  | refused (e : VolumeError) (hvolume : (volume v).serve q = (.error e, volume v))
    (hrefused : q.Refused table.get?)

variable {v : Volume} {table : Table CacheKey Rows}

theorem answered_get (h : v.Mirrors table) (key : CacheKey) : Answered v table (.get key) := by
  cases hkey : table.get? key with
  | none =>
    refine .alike (.found .miss) v table ?_ ?_ h ?_
    · rw [serve, get?, h.read?_of_none hkey]
      rfl
    · rw [serve, get?, hkey]
      rfl
    · rintro ⟨rows, hrows, _⟩
      cases hkey.symm.trans hrows
  | some rows =>
    have hread := h.read?_of_some hkey
    by_cases hdepth : Json.maxDepth < Rows.nesting rows
    · refine .refused .unreadableRows ?_ ⟨rows, hkey, hdepth⟩
      rw [serve, get?, hread, if_pos hdepth]
    · refine .alike (.found (.hit rows)) v table ?_ ?_ h ?_
      · rw [serve, get?, hread, if_neg hdepth]
        rfl
      · rw [serve, get?, hkey]
        rfl
      · rintro ⟨rows', hrows', hdepth'⟩
        cases hkey.symm.trans hrows'
        exact hdepth hdepth'

theorem answered_put (h : v.Mirrors table) (key : CacheKey) {rows : Rows}
    (hrows : Value.OrderedItems rows) : Answered v table (.put key rows) := by
  by_cases hshort : key.encode.length ≤ Volume.maxKeySize
  · refine .alike .done (v.insert key.encode (Rows.jsonText rows)) (table.insert key rows) ?_ rfl
      (h.insert hshort hrows) (Nat.not_lt_of_le hshort)
    rw [serve, insert?, Volume.write?, if_pos hshort]
    rfl
  · refine .refused .badKeySize ?_ (Nat.lt_of_not_le hshort)
    rw [serve, insert?, Volume.write?, if_neg hshort]
    rfl

theorem answered_apply (h : v.Mirrors table) {batch : CommitBatch}
    (hordered : ∀ e ∈ batch.entries, Value.OrderedItems e.2) :
    Answered v table (.apply batch) := by
  by_cases hshort : ∀ e ∈ batch.entries, e.1.encode.length ≤ Volume.maxKeySize
  · obtain ⟨v', table', hvolume, hmemory, hmirrors⟩ := applyBatch_related Volume.mirrors_empty
      (fun v table hmirrors => ⟨_, v.writeAll?_of_short hshort,
        Volume.Mirrors.insertAll hmirrors hshort hordered⟩) h
    refine .alike .done v' table' ?_ ?_ hmirrors ?_
    · rw [serve, hvolume]
    · rw [serve, hmemory]
    · rintro ⟨e, he, hlong⟩
      exact Nat.not_lt_of_le (hshort e he) hlong
  · have hrefused : (RegionRequest.apply batch).Refused table.get? := by
      simpa [RegionRequest.Refused] using hshort
    cases happly : (volume v).applyBatch batch with
    | error e =>
      refine .refused e ?_ hrefused
      rw [serve, happly]
    | ok st => exact absurd ((exists_applyBatch_iff _ batch).1 ⟨st, happly⟩) hshort

theorem answered (h : v.Mirrors table) {q : RegionRequest} (hq : q.Ordered) :
    Answered v table q := by
  cases q with
  | get key => exact answered_get h key
  | put key rows => exact answered_put h key hq
  | remove key =>
    refine .alike (.removed (table.contains key)) (v.erase key.encode) (table.erase key) ?_ rfl
      (h.erase key) id
    rw [serve, contains, h.contains key, erase]
  | clear => exact .alike .done .empty .empty rfl rfl Volume.mirrors_empty id
  | len =>
    refine .alike (.counted table.size) v table ?_ rfl h id
    rw [serve, size, h.image.size]
  | apply batch => exact answered_apply h hq

end Storage

/-! ## Regions that get the same calls -/

namespace RegionStore

variable {s t : RegionStore} {r : RegionRef}

theorem keeps_openMemory (s : RegionStore) (id : String) :
    (s.openMemory id).2.Keeps (s.openMemory id).1 (.memory .empty) where
  opened := by simp [openMemory]
  willing := by rw [region_opened]
  storage := storage_of_own (by rw [region_opened])

/-- A region on a volume that has no entries yet. -/
theorem keeps_openVolume {id path : String} (hopen : s.openVolume id path = (.ok r, t))
    (hempty : t.len r = .ok 0) : t.Keeps r (.volume .empty) := by
  rw [openVolume] at hopen
  rcases hprepare : s.prepare path with ⟨prepared, s'⟩
  rw [hprepare] at hopen
  cases prepared with
  | error e => cases hopen
  | ok d =>
    obtain ⟨hr, ht⟩ := Prod.mk.inj hopen
    obtain rfl : (s'.mount id d).1 = r := Except.ok.inj hr
    obtain rfl : (s'.mount id d).2 = t := ht
    have hregion : (s'.mount id d).2.region (s'.mount id d).1 = { backing := .shared d } :=
      (s'.region_mount id d _).trans (if_pos rfl)
    have hwilling : ¬ (s'.mount id d).2.refuses (s'.mount id d).1 .len = true := by
      simp [refuses, hregion]
    have hstorage := storage_of_shared (congrArg Region.backing hregion)
    rw [len, if_neg hwilling, hstorage] at hempty
    refine ⟨by simp [mount], by rw [hregion], ?_⟩
    rw [hstorage, Table.eq_empty_of_size_eq_zero (Except.ok.inj hempty)]

end RegionStore

/-- A store with a region on a volume, and a store with a region in memory. -/
structure Tandem where
  onVolume : RegionStore
  inMemory : RegionStore

namespace Tandem

/-- Both regions get a call, unless it is a write that the volume refuses. -/
def step (r r' : RegionRef) (w : Tandem) (q : RegionRequest) : Tandem where
  onVolume := (w.onVolume.serve r q).2
  inMemory :=
    match q.isWrite, (w.onVolume.serve r q).1 with
    | true, .error _ => w.inMemory
    | _, _ => (w.inMemory.serve r' q).2

def run (r r' : RegionRef) (w : Tandem) (calls : List RegionRequest) : Tandem :=
  calls.foldl (step r r') w

/-- The volume mirrors the table in memory. -/
def Alike (r r' : RegionRef) (w : Tandem) : Prop :=
  ∃ v table, w.onVolume.Keeps r (.volume v) ∧ w.inMemory.Keeps r' (.memory table) ∧
    v.Mirrors table

variable {r r' : RegionRef} {w : Tandem} {q : RegionRequest}

theorem Alike.step (h : w.Alike r r') (hq : q.Ordered) : (w.step r r' q).Alike r r' := by
  obtain ⟨v, table, hvolume, hmemory, hmirrors⟩ := h
  obtain ⟨hanswer, hkeeps⟩ := hvolume.serve q
  obtain ⟨_, hkeeps'⟩ := hmemory.serve q
  unfold Tandem.step
  cases Storage.answered hmirrors hq with
  | alike reply v' table' hserve hserve' hmirrors' _ =>
    rw [hserve] at hanswer hkeeps
    rw [hserve'] at hkeeps'
    refine ⟨v', table', hkeeps, ?_, hmirrors'⟩
    rw [hanswer]
    cases q.isWrite <;> exact hkeeps'
  | refused e hserve _ =>
    rw [hserve] at hanswer hkeeps
    refine ⟨v, table, hkeeps, ?_, hmirrors⟩
    rw [hanswer]
    cases hwrite : q.isWrite with
    | true => exact hmemory
    | false =>
      rw [Storage.serve_snd_of_read hwrite] at hkeeps'
      exact hkeeps'

theorem Alike.run (h : w.Alike r r') {calls : List RegionRequest}
    (hcalls : ∀ q ∈ calls, q.Ordered) : (w.run r r' calls).Alike r r' := by
  induction calls generalizing w with
  | nil => exact h
  | cons q rest ih =>
    obtain ⟨hq, hrest⟩ := List.forall_mem_cons.1 hcalls
    exact ih (h.step hq) hrest

/-- What the volume answers is answered in memory, and it refuses the calls that it has to. -/
theorem Alike.answers (h : w.Alike r r') (hq : q.Ordered) :
    (∀ reply, (w.onVolume.serve r q).1 = .ok reply → (w.inMemory.serve r' q).1 = .ok reply) ∧
      ((∃ e, (w.onVolume.serve r q).1 = .error e) ↔ q.Refused (w.inMemory.contents r')) := by
  obtain ⟨v, table, hvolume, hmemory, hmirrors⟩ := h
  have hanswer := (hvolume.serve q).1
  have hanswer' := (hmemory.serve q).1
  have hcontents : w.inMemory.contents r' = table.get? := by
    rw [RegionStore.contents, hmemory.storage]
    rfl
  rw [hcontents]
  cases Storage.answered hmirrors hq with
  | alike reply v' table' hserve hserve' _ hfits =>
    rw [hserve] at hanswer
    rw [hserve'] at hanswer'
    rw [hanswer, hanswer']
    refine ⟨fun _ h => h, ?_, fun h => absurd h hfits⟩
    rintro ⟨e, he⟩
    cases he
  | refused e hserve hrefused =>
    rw [hserve] at hanswer
    rw [hanswer]
    refine ⟨?_, fun _ => hrefused, fun _ => ⟨_, rfl⟩⟩
    intro reply h
    cases h

/-- A region on a volume that starts without entries never gives a wrong answer: after any calls,
whatever it answers is answered by a fresh region in memory that got the same calls except for the
refused writes. It refuses to write under a key that is longer than the keys of volumes, and then
its store is as before, and to read rows that nest too deeply, and refuses nothing else. -/
theorem volume_is_never_wrong {s t : RegionStore} {id path : String} {r : RegionRef}
    (hopen : s.openVolume id path = (.ok r, t)) (hempty : t.len r = .ok 0)
    (u : RegionStore) (id' : String) {earlier : List RegionRequest}
    (hearlier : ∀ q ∈ earlier, q.Ordered) {q : RegionRequest} (hq : q.Ordered) :
    let r' := (u.openMemory id').1
    let w := Tandem.run r r' ⟨t, (u.openMemory id').2⟩ earlier
    (∀ reply, (w.onVolume.serve r q).1 = .ok reply → (w.inMemory.serve r' q).1 = .ok reply) ∧
      ((∃ e, (w.onVolume.serve r q).1 = .error e) ↔ q.Refused (w.inMemory.contents r')) ∧
      ∀ e, (w.onVolume.serve r q).1 = .error e → (w.onVolume.serve r q).2 = w.onVolume := by
  intro r' w
  have hfresh : Alike r r' ⟨t, (u.openMemory id').2⟩ :=
    ⟨.empty, .empty, RegionStore.keeps_openVolume hopen hempty, u.keeps_openMemory id',
      Volume.mirrors_empty⟩
  have halike : w.Alike r r' := hfresh.run hearlier
  obtain ⟨hsame, hrefused⟩ := halike.answers hq
  exact ⟨hsame, hrefused, fun _ => RegionStore.serve_of_error⟩

/-- The key of one parameter value. -/
def keyOf (v : Value) : CacheKey :=
  .ofComponents [v]

/-- A key that is longer than the keys of volumes. -/
def longKey : CacheKey :=
  keyOf (.text (String.ofList (List.replicate 512 'x')))

/-- A batch that clears its region and puts entries under a short and under a long key. -/
def longBatch : CommitBatch where
  clear := true
  entries := [(keyOf (.int 1), [.int 2]), (longKey, [])]

/-- The refused batch leaves the rows of the first call, and the rows of the last call are too deep
to be read. -/
theorem refused_batch_clears_nothing :
    let r : RegionRef := ⟨0, "users"⟩
    let w := Tandem.run r r
      ⟨(RegionStore.empty.openVolume "users" "users").2, (RegionStore.empty.openMemory "users").2⟩
      [.put (keyOf (.int 1)) [.int 1], .apply longBatch,
        .put (keyOf (.int 2)) [Value.nested 64 .null]]
    (w.inMemory.serve r (.get (keyOf (.int 1)))).1 = .ok (.found (.hit [.int 1])) ∧
      (∃ e, (w.onVolume.serve r (.get (keyOf (.int 2)))).1 = .error e) ∧
      (∃ e, (w.onVolume.serve r (.apply longBatch)).1 = .error e) ∧
      (w.onVolume.serve r (.apply longBatch)).2 = w.onVolume := by
  intro r w
  have hopen : RegionStore.empty.openVolume "users" "users" =
      (.ok r, (RegionStore.empty.openVolume "users" "users").2) := rfl
  have hempty : (RegionStore.empty.openVolume "users" "users").2.len r = .ok 0 := rfl
  have hbatch : (RegionRequest.apply longBatch).Ordered := by
    simp [RegionRequest.Ordered, longBatch, Value.OrderedItems, Value.Ordered]
  have hnull : Value.null.Ordered := trivial
  have hdeep : (Value.nested 64 .null).Ordered := Value.ordered_nested hnull 64
  have hearlier : ∀ q ∈ [RegionRequest.put (keyOf (.int 1)) [.int 1], .apply longBatch,
      .put (keyOf (.int 2)) [Value.nested 64 .null]], q.Ordered :=
    List.forall_mem_cons.2 ⟨⟨trivial, trivial⟩, List.forall_mem_cons.2 ⟨hbatch,
      List.forall_mem_singleton.2 ⟨hdeep, trivial⟩⟩⟩
  obtain ⟨hsame, -, -⟩ := volume_is_never_wrong hopen hempty .empty "users" hearlier
    (q := .get (keyOf (.int 1))) trivial
  obtain ⟨-, hunreadable, -⟩ := volume_is_never_wrong hopen hempty .empty "users" hearlier
    (q := .get (keyOf (.int 2))) trivial
  obtain ⟨-, hlong, hstays⟩ := volume_is_never_wrong hopen hempty .empty "users" hearlier hbatch
  obtain ⟨e, he⟩ := hlong.2 ⟨(longKey, []), by decide +kernel, by decide +kernel⟩
  exact ⟨hsame _ (by decide +kernel),
    hunreadable.2 ⟨[Value.nested 64 .null], by decide +kernel, by decide +kernel⟩, ⟨e, he⟩,
    hstays e he⟩

end Tandem

end DataMapper
