import DataMapper.Text.Inspect
import DataMapper.Value.Print
/-!
# Cursors

Rows that are consumed one at a time.
-/

namespace DataMapper

open Text

structure Cursor where
  rest : Rows
  consumed : Nat := 0

namespace Cursor

def ofRows (rows : Rows) : Cursor :=
  { rest := rows }

def next (c : Cursor) : Option Value × Cursor :=
  match c.rest with
  | [] => (none, c)
  | row :: rest => (some row, ⟨rest, c.consumed + 1⟩)

/-- Takes at most `n` rows. -/
def take (c : Cursor) (n : Nat) : Rows × Cursor :=
  (c.rest.take n, ⟨c.rest.drop n, c.consumed + (c.rest.take n).length⟩)

def isExhausted (c : Cursor) : Bool :=
  c.rest.isEmpty

/-- The number of rows that are left. -/
def remaining (c : Cursor) : Nat :=
  c.rest.length

def inspect (c : Cursor) : String :=
  inspectRecord "Cursor"
    [("rows", inspectVariant "IntoIter" [inspectList (c.rest.map Value.inspect)]),
      ("consumed", toString c.consumed)]

end Cursor

end DataMapper
