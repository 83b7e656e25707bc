import DataMapper.Region.Directory
import DataMapper.Region.Storage
/-!
# The store of regions

All cache regions that were ever opened, each with its own statistics. Regions on one directory
share a volume, which outlives them. A region may be told to refuse some of its calls.
-/

namespace DataMapper

open Text

/-- The calls that a region may refuse. -/
inductive RegionCall where
  | get
  | put
  | remove
  | clear
  | len
  | apply
  deriving DecidableEq, Repr

def RegionCall.name : RegionCall → String
  | get => "get"
  | put => "put"
  | remove => "remove"
  | clear => "clear"
  | len => "len"
  | apply => "apply"

/-- Where a region keeps its entries. -/
inductive Backing where
  | own (entries : Table CacheKey Rows)
  | shared (directory : Directory)

structure Region where
  backing : Backing := .own .empty
  stats : CacheStats := {}
  refusing : List RegionCall := []

instance : Inhabited Region := ⟨{}⟩

structure RegionStore where
  regions : List Region := []
  volumes : Table Directory Volume := .empty
  files : FileTree := .initial

namespace RegionStore

def empty : RegionStore := {}

def region (s : RegionStore) (r : RegionRef) : Region :=
  s.regions.getD r.slot default

def setRegion (s : RegionStore) (r : RegionRef) (region : Region) : RegionStore :=
  { s with regions := s.regions.set r.slot region }

def storage (s : RegionStore) (r : RegionRef) : Storage :=
  match (s.region r).backing with
  | .own entries => .memory entries
  | .shared directory => .volume ((s.volumes.get? directory).getD .empty)

def setStorage (s : RegionStore) (r : RegionRef) (storage : Storage) : RegionStore :=
  match (s.region r).backing, storage with
  | .own _, .memory entries => s.setRegion r { s.region r with backing := .own entries }
  | .shared directory, .volume contents =>
    { s with volumes := s.volumes.insert directory contents }
  | _, _ => s

def modifyStats (s : RegionStore) (r : RegionRef) (f : CacheStats → CacheStats) : RegionStore :=
  s.setRegion r { s.region r with stats := f (s.region r).stats }

def recordLookup (s : RegionStore) (r : RegionRef) (hit : Bool) : RegionStore :=
  s.modifyStats r fun stats =>
    if hit then { stats with hits := stats.hits + 1 }
    else { stats with misses := stats.misses + 1 }

def failure (r : RegionRef) (reason : String) : Error :=
  .cache (.backend r.id reason)

def refusal (r : RegionRef) (call : RegionCall) : Error :=
  failure r (call.name ++ " refused")

def refuses (s : RegionStore) (r : RegionRef) (call : RegionCall) : Bool :=
  (s.region r).refusing.contains call

/-- The rows under a key. Only an answered lookup counts in the statistics. -/
def get (s : RegionStore) (r : RegionRef) (key : CacheKey) : Except Error Lookup × RegionStore :=
  if s.refuses r .get then (.error (refusal r .get), s)
  else
    match (s.storage r).get? key with
    | .error e => (.error (failure r e.message), s)
    | .ok rows? =>
      let found := Lookup.ofOption rows?
      (.ok found, s.recordLookup r found.isHit)

def put (s : RegionStore) (r : RegionRef) (key : CacheKey) (rows : Rows) :
    Except Error Unit × RegionStore :=
  if s.refuses r .put then (.error (refusal r .put), s)
  else
    match (s.storage r).insert? key rows with
    | .error e => (.error (failure r e.message), s)
    | .ok storage => (.ok (), s.setStorage r storage)

/-- Removes a key and tells whether it was there. -/
def remove (s : RegionStore) (r : RegionRef) (key : CacheKey) : Except Error Bool × RegionStore :=
  if s.refuses r .remove then (.error (refusal r .remove), s)
  else (.ok ((s.storage r).contains key), s.setStorage r ((s.storage r).erase key))

def clear (s : RegionStore) (r : RegionRef) : Except Error Unit × RegionStore :=
  if s.refuses r .clear then (.error (refusal r .clear), s)
  else
    (.ok (), (s.setStorage r (s.storage r).clear).modifyStats r fun stats =>
      { stats with clears := stats.clears + 1 })

def len (s : RegionStore) (r : RegionRef) : Except Error Nat :=
  if s.refuses r .len then .error (refusal r .len) else .ok (s.storage r).size

/-- Applies a commit batch as one step. A refused batch changes nothing. -/
def apply (s : RegionStore) (r : RegionRef) (batch : CommitBatch) :
    Except Error Unit × RegionStore :=
  if s.refuses r .apply then (.error (refusal r .apply), s)
  else
    match (s.storage r).applyBatch batch with
    | .error e => (.error (failure r e.message), s)
    | .ok storage =>
      (.ok (), (s.setStorage r storage).modifyStats r fun stats =>
        { stats with
          commits := stats.commits + 1
          clears := if batch.clear then stats.clears + 1 else stats.clears })

/-- The statistics of a region. They are never refused. -/
def stats (s : RegionStore) (r : RegionRef) : CacheStats :=
  { (s.region r).stats with entryCount := (s.storage r).size }

/-- Opens a region in memory. -/
def openMemory (s : RegionStore) (id : String) : RegionRef × RegionStore :=
  (⟨s.regions.length, id⟩, { s with regions := s.regions ++ [{}] })

/-- Adds a region on the volume of a directory. -/
def mount (s : RegionStore) (id : String) (d : Directory) : RegionRef × RegionStore :=
  (⟨s.regions.length, id⟩,
    { s with
      regions := s.regions ++ [{ backing := .shared d }]
      volumes := if s.volumes.contains d then s.volumes else s.volumes.insert d .empty })

/-- The files that a volume keeps in its directory, in the order in which they are made. -/
def volumeFiles : List String :=
  ["lock.mdb", "data.mdb"]

/-- Makes the directory of a path and puts the files of a volume there. -/
def prepare (s : RegionStore) (path : String) : Except VolumeError Directory × RegionStore :=
  match Route.ofText? path with
  | .error e => (.error (.io e.message), s)
  | .ok route =>
    match s.files.ensure route with
    | (.error e, files) => (.error (.io e.message), { s with files })
    | (.ok d, files) =>
      match files.putFiles d volumeFiles with
      | (.error e, files) => (.error (.openEnvironment e.message), { s with files })
      | (.ok (), files) => (.ok d, { s with files })

/-- Opens a region on the volume at the end of a path, which is created where there is none. -/
def openVolume (s : RegionStore) (id path : String) : Except VolumeError RegionRef × RegionStore :=
  match s.prepare path with
  | (.error e, s) => (.error e, s)
  | (.ok d, s) =>
    let (r, s) := s.mount id d
    (.ok r, s)

/-- Replaces the set of calls that a region refuses. -/
def setRefusing (s : RegionStore) (r : RegionRef) (calls : List RegionCall) : RegionStore :=
  s.setRegion r { s.region r with refusing := calls }

/-- Puts any text in place of the rows under a key of a volume. -/
def overwrite (s : RegionStore) (r : RegionRef) (key : CacheKey) (text : String) : RegionStore :=
  match s.storage r with
  | .memory _ => s
  | .volume contents => s.setStorage r (.volume (contents.writeText key text))

/-- The inspection text of a region. -/
def inspect (s : RegionStore) (r : RegionRef) : String :=
  let name := match (s.region r).backing with
    | .own _ => "MemoryCache"
    | .shared _ => "LmdbCache"
  inspectRecord name [("id", quoted r.id)]

end RegionStore

end DataMapper
