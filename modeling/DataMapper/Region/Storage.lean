import DataMapper.Region.Volume
/-!
# Region storage

What a cache region keeps its entries in: a table in memory or a volume.
-/

namespace DataMapper

inductive Storage where
  | memory (entries : Table CacheKey Rows)
  | volume (contents : Volume)

namespace Storage

def get? : Storage → CacheKey → Except VolumeError (Option Rows)
  | memory entries, key => .ok (entries.get? key)
  | volume contents, key => contents.read? key

def insert? : Storage → CacheKey → Rows → Except VolumeError Storage
  | memory entries, key, rows => .ok (memory (entries.insert key rows))
  | volume contents, key, rows => (contents.write? key rows).map volume

def contains : Storage → CacheKey → Bool
  | memory entries, key => entries.contains key
  | volume contents, key => contents.contains key.encode

def erase : Storage → CacheKey → Storage
  | memory entries, key => memory (entries.erase key)
  | volume contents, key => volume (contents.erase key.encode)

def clear : Storage → Storage
  | memory _ => memory .empty
  | volume _ => volume .empty

def size : Storage → Nat
  | memory entries => entries.size
  | volume contents => contents.size

def insertAll? : Storage → List (CacheKey × Rows) → Except VolumeError Storage
  | memory entries, batch => .ok (memory (entries.insertAll batch))
  | volume contents, batch => (contents.writeAll? batch).map volume

/-- Applies a batch in one step: a refused batch leaves no trace. -/
def applyBatch (s : Storage) (batch : CommitBatch) : Except VolumeError Storage :=
  (if batch.clear then s.clear else s).insertAll? batch.entries

end Storage

end DataMapper
