import DataMapper.Value.Basic
/-!
# Row handlers

Receivers of rows one at a time. What every handler received is kept in one journal. A handler may
have a capacity; it breaks down at the first row beyond.
-/

namespace DataMapper

/-- A handler, told apart from others by its number. -/
structure Handler where
  id : Nat
  capacity : Option Nat := none
  deriving DecidableEq, Repr

/-- All rows that were handed out, in order, each with the number of its handler. -/
abbrev Journal := List (Nat × Value)

namespace Journal

def received (j : Journal) (id : Nat) : Rows :=
  (j.filter fun e => e.1 = id).map Prod.snd

end Journal

namespace Handler

def hasRoom (h : Handler) (j : Journal) : Bool :=
  match h.capacity with
  | none => true
  | some n => (j.received h.id).length < n

/-- The handler with room for as many rows again as it had at first. -/
def renew (h : Handler) (j : Journal) : Handler :=
  { h with capacity := h.capacity.map (· + (j.received h.id).length) }

/-- Hands rows to a handler until it breaks down. Tells whether it took all of them. -/
def take (h : Handler) : List Value → Journal → Bool × Journal
  | [], j => (true, j)
  | row :: rest, j => if h.hasRoom j then take h rest (j ++ [(h.id, row)]) else (false, j)

end Handler

end DataMapper
