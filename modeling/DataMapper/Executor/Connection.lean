import DataMapper.Executor.DataSource
import DataMapper.Key
/-!
# Connections

A plain executor: one connection to the data source, with the set of keys that it has answered
since its last write or boundary. A commit reaches the source exactly when it is required.
-/

namespace DataMapper

structure Connection where
  environment : String
  answered : List CacheKey := []
  closed : Bool := false

namespace Connection

def closedError : Error :=
  .transaction .executorClosed

/-- Runs a select: the source records it and answers, and the bounds cut the answer. -/
def select (c : Connection) (source : DataSource) (statement : MappedStatement)
    (parameter : Value) (bounds : RowBounds) : Except Error Rows × DataSource :=
  if c.closed then (.error closedError, source)
  else if source.fails .query then (.error (DataSource.failure .query), source)
  else
    (.ok (bounds.slice (source.answer statement.id parameter)),
      source.recordQuery statement.id parameter)

/-- Remembers that a key was answered. -/
def remember (c : Connection) (key : CacheKey) : Connection :=
  { c with answered := if c.answered.contains key then c.answered else key :: c.answered }

def forget (c : Connection) : Connection :=
  { c with answered := [] }

def update (c : Connection) (source : DataSource) (statement : MappedStatement)
    (parameter : Value) : Except Error Nat × Connection × DataSource :=
  if c.closed then (.error closedError, c, source)
  else if source.fails .update then (.error (DataSource.failure .update), c, source)
  else (.ok (source.affectedBy statement.id), c.forget, source.recordUpdate statement.id parameter)

def flush (c : Connection) (source : DataSource) : Except Error Unit × DataSource :=
  if c.closed then (.error closedError, source)
  else (.ok (), { source with flushes := source.flushes + 1 })

/-- Commits if required, and tells whether the commit reached the source. -/
def commit (c : Connection) (source : DataSource) (required : Bool) :
    Except Error Bool × Connection × DataSource :=
  if c.closed then (.error closedError, c, source)
  else if !required then (.ok false, c.forget, source)
  else if source.fails .commit then (.error (DataSource.failure .commit), c.forget, source)
  else (.ok true, c.forget, { source with commits := source.commits + 1 })

/-- Rolls back if required. A closed connection has nothing to roll back. -/
def rollback (c : Connection) (source : DataSource) (required : Bool) :
    Except Error Unit × Connection × DataSource :=
  if c.closed then (.ok (), c, source)
  else if !required then (.ok (), c.forget, source)
  else if source.fails .rollback then (.error (DataSource.failure .rollback), c.forget, source)
  else (.ok (), c.forget, { source with rollbacks := source.rollbacks + 1 })

/-- Rolls back if so told, and closes even if that fails. -/
def close (c : Connection) (source : DataSource) (forceRollback : Bool) :
    Except Error Unit × Connection × DataSource :=
  if c.closed then (.ok (), c, source)
  else
    let (result, c, source) := c.rollback source forceRollback
    let source := { source with closes := source.closes + 1 }
    let result := match result with
      | .error e => .error e
      | .ok () => if source.fails .close then .error (DataSource.failure .close) else .ok ()
    (result, { c with closed := true }, source)

end Connection

end DataMapper
