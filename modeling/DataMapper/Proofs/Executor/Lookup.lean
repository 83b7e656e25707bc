import DataMapper.Proofs.Executor.Alike
/-!
# Selects through the cache

A select that a region caches is answered from what the executor sees of the region, and from the
data source if nothing is seen there. A property of all rows that come from the source so passes to
all that is staged, and from there to the entries of the regions.
-/

namespace DataMapper

variable {P : CacheKey → Rows → Prop}

/-! ## Entries with a property -/

/-- All entries have the property. -/
def Contents.All (P : CacheKey → Rows → Prop) (base : Contents) : Prop :=
  ∀ key rows, base key = some rows → P key rows

namespace Staged

variable {v : Staged} {base : Contents}

/-- All that is staged has the property. -/
def All (P : CacheKey → Rows → Prop) (v : Staged) : Prop :=
  ∀ key rows, v.staged.get? key = some rows → P key rows

theorem all_fresh (r : RegionRef) : All P { region := r } :=
  fun key rows h => by simp at h

theorem all_clear (v : Staged) : All P v.clear :=
  fun key rows h => by simp [clear] at h

theorem all_reset (v : Staged) : All P v.reset :=
  fun key rows h => by simp [reset] at h

theorem All.put (h : All P v) {key : CacheKey} {rows : Rows} (hrows : P key rows) :
    All P (v.put key rows) := by
  intro key' rows' h'
  unfold Staged.put at h'
  rw [Table.get?_insert] at h'
  split_ifs at h' with hkey
  · cases h'
    exact hkey ▸ hrows
  · exact h key' rows' h'

/-- What a pending clear hides need not have the property. -/
theorem All.overlay (h : All P v) (hbase : v.clearOnCommit = false → Contents.All P base) :
    Contents.All P (v.overlay base) := by
  intro key rows hrows
  rw [overlay_apply] at hrows
  cases hstaged : v.staged.get? key with
  | some rows' =>
    rw [hstaged] at hrows
    cases hrows
    exact h key rows hstaged
  | none =>
    rw [hstaged, Option.none_or] at hrows
    split_ifs at hrows with hclear
    exact hbase (by simpa using hclear) key rows hrows

end Staged

theorem MappedStatement.mem_of_cache {statement : MappedStatement} {regions : List RegionRef}
    {r : RegionRef} (hcache : statement.cache = some r) (hr : r ∈ regions) :
    ∀ r', statement.cache = some r' → r' ∈ regions := by
  intro r' hr'
  rw [hcache] at hr'
  cases hr'
  exact hr

namespace UnitOfWork

variable {u : UnitOfWork} {regions : List RegionRef} {r r' : RegionRef}

theorem all_modify (h : (u.viewOf r').All P) {f : Staged → Staged}
    (hf : (f (u.viewOf r)).All P) : ((u.modify r f).viewOf r').All P := by
  rw [viewOf_modify]
  split_ifs
  · exact hf
  · exact h

/-! ## Flushing statements -/

/-- The unit of work after a statement has marked its region to be cleared, if it does so. -/
def flushedBy (u : UnitOfWork) (statement : MappedStatement) : UnitOfWork :=
  match statement.cache with
  | none => u
  | some region => if statement.flushCacheRequired then u.modify region Staged.clear else u

theorem all_flushedBy (h : (u.viewOf r).All P) (statement : MappedStatement) :
    ((u.flushedBy statement).viewOf r).All P := by
  unfold flushedBy
  cases statement.cache with
  | none => exact h
  | some region =>
    dsimp only
    split_ifs
    · exact all_modify h (Staged.all_clear _)
    · exact h

theorem Within.flushedBy (h : u.Within regions) (hsep : Separate regions)
    {statement : MappedStatement} (hstatement : ∀ r, statement.cache = some r → r ∈ regions) :
    (u.flushedBy statement).Within regions := by
  unfold UnitOfWork.flushedBy
  cases hcache : statement.cache with
  | none => exact h
  | some region =>
    dsimp only
    split_ifs
    · exact h.modify hsep (hstatement region hcache) fun _ => rfl
    · exact h

theorem Within.flushIfRequired_eq (h : u.Within regions) (hsep : Separate regions)
    {statement : MappedStatement} (hstatement : ∀ r, statement.cache = some r → r ∈ regions) :
    Executor.flushIfRequired u statement = .ok (u.flushedBy statement) := by
  unfold Executor.flushIfRequired UnitOfWork.flushedBy
  cases hcache : statement.cache with
  | none => rfl
  | some region =>
    dsimp only
    split_ifs
    · exact h.clear_eq hsep (hstatement region hcache)
    · rfl

/-! ## Selects -/

/-- A cached select, as the lookup and the fetch that it comes down to. -/
theorem Within.queryWithKey_eq (h : u.Within regions) (hsep : Separate regions)
    {statement : MappedStatement} (hcache : statement.cache = some r) (hr : r ∈ regions)
    (huse : statement.useCache = true) (hout : statement.hasOutParams = false) {s : Shared}
    (hmem : s.regions.InMemory r) (c : Connection) (parameter : Value) (bounds : RowBounds)
    (key : CacheKey) :
    ∃ store, store.SameEntries s.regions ∧
      (Executor.caching u (.direct c)).queryWithKey statement parameter bounds none key s =
        match (u.flushedBy statement).overlay r (s.regions.contents r) key with
        | some rows =>
          (.ok rows, .caching ((u.flushedBy statement).modify r id) (.direct c),
            { s with regions := store })
        | none =>
          match c.select s.source statement parameter bounds with
          | (.error e, source) =>
            (.error (.error e), .caching ((u.flushedBy statement).modify r id) (.direct c),
              { s with regions := store, source })
          | (.ok rows, source) =>
            (.ok rows,
              .caching (((u.flushedBy statement).modify r id).modify r fun v => v.put key rows)
                (.direct (c.remember key)),
              { s with regions := store, source }) := by
  have hstatement := MappedStatement.mem_of_cache hcache hr
  have hflushed := h.flushedBy hsep hstatement
  obtain ⟨store, hget, hstore⟩ := hflushed.get_eq hsep hr hmem key
  refine ⟨store, hstore, ?_⟩
  rw [Executor.queryWithKey_eq_lookedUp _ parameter bounds key s hcache
    (h.flushIfRequired_eq hsep hstatement) huse hout, hget]
  cases (u.flushedBy statement).overlay r (s.regions.contents r) key with
  | some rows => rfl
  | none =>
    have hput := (hflushed.modify hsep hr (f := id) fun _ => rfl).put_eq hsep hr key
    unfold Lookup.ofOption Executor.lookedUp Executor.queryWithKey
    dsimp only
    cases c.select s.source statement parameter bounds with
    | mk result source =>
      cases result with
      | error e => rfl
      | ok rows =>
        unfold Executor.deliver
        dsimp only
        rw [hput rows]

end UnitOfWork

end DataMapper
