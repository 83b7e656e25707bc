import DataMapper.Key
import DataMapper.Table
/-!
# Lookups, batches and statistics

What passes between a cache region and its users.
-/

namespace DataMapper

open Text

/-- The answer of a cache. A hit may carry no rows: an empty result is known, not missing. -/
inductive Lookup where
  | hit (rows : Rows)
  | miss
  deriving DecidableEq

namespace Lookup

def ofOption : Option Rows → Lookup
  | some rows => hit rows
  | none => miss

def rows? : Lookup → Option Rows
  | hit rows => some rows
  | miss => none

def isHit : Lookup → Bool
  | hit _ => true
  | miss => false

def inspect : Lookup → String
  | hit rows => inspectVariant "Hit" [inspectList (rows.map Value.inspect)]
  | miss => "Miss"

end Lookup

/-- The writes that a unit of work publishes at once. The region is cleared before they are
made. -/
structure CommitBatch where
  clear : Bool := false
  entries : List (CacheKey × Rows) := []
  deriving DecidableEq

def CommitBatch.isEmpty (b : CommitBatch) : Bool :=
  !b.clear && b.entries.isEmpty

structure CacheStats where
  hits : Nat := 0
  misses : Nat := 0
  entryCount : Nat := 0
  commits : Nat := 0
  clears : Nat := 0
  deriving DecidableEq, Repr

namespace CacheStats

/-- The share of hits among all lookups, as the bits of a double. -/
def hitRate (s : CacheStats) : UInt64 :=
  let total := UInt64.ofNat (s.hits + s.misses)
  if total = 0 then 0 else ((UInt64.ofNat s.hits).toFloat / total.toFloat).toBits

def inspect (s : CacheStats) : String :=
  inspectRecord "CacheStats"
    [("hits", toString s.hits), ("misses", toString s.misses),
      ("entry_count", toString s.entryCount), ("commits", toString s.commits),
      ("clears", toString s.clears)]

end CacheStats

end DataMapper
