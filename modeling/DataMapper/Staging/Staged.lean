import DataMapper.Region.Store
/-!
# Staged regions

What one unit of work would do to a region at commit, and the region as this unit of work sees it
until then.
-/

namespace DataMapper

open Text

/-- The staged view of a region. The staged entries are those put since the last clear. -/
structure Staged where
  region : RegionRef
  clearOnCommit : Bool := false
  staged : Table CacheKey Rows := .empty

namespace Staged

/-- Whether the view belongs to that very region. -/
def isBackedBy (v : Staged) (r : RegionRef) : Bool :=
  v.region.slot = r.slot

/-- Own entries come first, and after a pending clear nothing else is seen. -/
def get (v : Staged) (store : RegionStore) (key : CacheKey) :
    Except Error Lookup × RegionStore :=
  match v.staged.get? key with
  | some rows => (.ok (.hit rows), store)
  | none => if v.clearOnCommit then (.ok .miss, store) else store.get v.region key

def put (v : Staged) (key : CacheKey) (rows : Rows) : Staged :=
  { v with staged := v.staged.insert key rows }

/-- Marks the region to be cleared, and forgets what was staged before. -/
def clear (v : Staged) : Staged :=
  { v with clearOnCommit := true, staged := .empty }

def isDirty (v : Staged) : Bool :=
  v.clearOnCommit || !v.staged.isEmpty

def size (v : Staged) : Nat :=
  v.staged.size

def batch (v : Staged) : CommitBatch :=
  ⟨v.clearOnCommit, v.staged.entries⟩

/-- The view without anything staged or pending. -/
def reset (v : Staged) : Staged :=
  { v with clearOnCommit := false, staged := .empty }

/-- Publishes what is staged as one batch; a view without any leaves the region alone. Afterwards
the view is reset, whether or not the region took the batch. -/
def publish (v : Staged) (store : RegionStore) : Except Error Unit × RegionStore :=
  if v.batch.isEmpty then (.ok (), store) else store.apply v.region v.batch

def inspect (v : Staged) : String :=
  inspectRecord "TransactionalCache"
    [("region", quoted v.region.id), ("clear_on_commit", inspectBool v.clearOnCommit),
      ("staged", toString v.size)]

end Staged

end DataMapper
