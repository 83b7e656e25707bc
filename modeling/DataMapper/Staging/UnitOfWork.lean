import DataMapper.Staging.Staged
/-!
# Units of work

The staged views of all regions that one unit of work has touched, by region id. An id stands for
the region that it was first used with.
-/

namespace DataMapper

open Text

structure UnitOfWork where
  views : NameMap Staged := .empty

namespace UnitOfWork

def empty : UnitOfWork := {}

/-- The view of a region, fresh on first use. Another region under a known id is rejected. -/
def view? (u : UnitOfWork) (r : RegionRef) : Except Error Staged :=
  match u.views.get? r.id with
  | none => .ok { region := r }
  | some v => if v.isBackedBy r then .ok v else .error (.cache (.duplicateRegion r.id))

def setView (u : UnitOfWork) (r : RegionRef) (v : Staged) : UnitOfWork :=
  ⟨u.views.insert r.id v⟩

def get (u : UnitOfWork) (store : RegionStore) (r : RegionRef) (key : CacheKey) :
    Except Error Lookup × UnitOfWork × RegionStore :=
  match u.view? r with
  | .error e => (.error e, u, store)
  | .ok v =>
    let (found, store) := v.get store key
    (found, u.setView r v, store)

def put (u : UnitOfWork) (r : RegionRef) (key : CacheKey) (rows : Rows) :
    Except Error UnitOfWork :=
  (u.view? r).map fun v => u.setView r (v.put key rows)

def clear (u : UnitOfWork) (r : RegionRef) : Except Error UnitOfWork :=
  (u.view? r).map fun v => u.setView r v.clear

/-- Publishes views in order and collects what the regions reported. -/
def publishAll : List (String × Staged) → RegionStore → List RegionFailure × RegionStore
  | [], store => ([], store)
  | (id, v) :: rest, store =>
    match v.publish store with
    | (.ok (), store) => publishAll rest store
    | (.error e, store) =>
      let (failures, store) := publishAll rest store
      (⟨id, e.message⟩ :: failures, store)

/-- Forgets all that is staged, in every view. -/
def rollbackAll (u : UnitOfWork) : UnitOfWork :=
  ⟨u.views.map Staged.reset⟩

/-- Publishes every view. Each region is attempted whatever the others answer, nothing stays staged,
and all failures are reported together. -/
def commitAll (u : UnitOfWork) (store : RegionStore) :
    Except Error Unit × UnitOfWork × RegionStore :=
  match publishAll u.views.entries store with
  | ([], store) => (.ok (), u.rollbackAll, store)
  | (failures, store) =>
    (.error (.transaction (.regions "commit" failures)), u.rollbackAll, store)

def isDirty (u : UnitOfWork) : Bool :=
  u.views.entries.any fun e => e.2.isDirty

/-- The number of regions touched so far. -/
def size (u : UnitOfWork) : Nat :=
  u.views.size

def isEmpty (u : UnitOfWork) : Bool :=
  u.size = 0

def inspect (u : UnitOfWork) : String :=
  let views := u.views.entries.map fun e => quoted e.1 ++ ": " ++ e.2.inspect
  inspectRecord "TransactionalCacheManager"
    [("caches", "\x7b" ++ commaSeparated views ++ "\x7d")]

end UnitOfWork

end DataMapper
