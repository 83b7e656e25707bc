import DataMapper.Error
import DataMapper.Executor.Handler
import DataMapper.Named
/-!
# The data source

The shared source behind all connections: the rows and counts that its statements answer with, the
operations that currently fail, and a record of all that was asked of it.
-/

namespace DataMapper

/-- The operations that can be told to fail. -/
inductive FailPoint where
  | opening
  | query
  | update
  | commit
  | rollback
  | close
  deriving DecidableEq, Repr

def FailPoint.name : FailPoint → String
  | opening => "Open"
  | query => "Query"
  | update => "Update"
  | commit => "Commit"
  | rollback => "Rollback"
  | close => "Close"

structure DataSource where
  rows : NameMap Rows := .empty
  affected : NameMap Nat := .empty
  failing : List FailPoint := []
  queries : NameMap Nat := .empty
  parameters : List (String × Value) := []
  updates : Nat := 0
  commits : Nat := 0
  rollbacks : Nat := 0
  closes : Nat := 0
  flushes : Nat := 0
  opened : Nat := 0

namespace DataSource

def empty : DataSource := {}

/-- The rows of a statement. A statement without rows of its own echoes its parameter. -/
def answer (d : DataSource) (statement : String) (parameter : Value) : Rows :=
  (d.rows.get? statement).getD [parameter]

def setRows (d : DataSource) (statement : String) (rows : Rows) : DataSource :=
  { d with rows := d.rows.insert statement rows }

/-- The number of rows that a statement affects, one where nothing else is said. -/
def affectedBy (d : DataSource) (statement : String) : Nat :=
  (d.affected.get? statement).getD 1

def setAffected (d : DataSource) (statement : String) (n : Nat) : DataSource :=
  { d with affected := d.affected.insert statement n }

def fail (d : DataSource) (point : FailPoint) : DataSource :=
  { d with failing := if d.failing.contains point then d.failing else point :: d.failing }

def heal (d : DataSource) (point : FailPoint) : DataSource :=
  { d with failing := d.failing.filter fun p => p ≠ point }

def failure (point : FailPoint) : Error :=
  .source s!"injected {point.name} failure"

def fails (d : DataSource) (point : FailPoint) : Bool :=
  d.failing.contains point

def queryCountFor (d : DataSource) (statement : String) : Nat :=
  (d.queries.get? statement).getD 0

def queryCount (d : DataSource) : Nat :=
  d.queries.entries.foldl (fun n e => n + e.2) 0

def recordQuery (d : DataSource) (statement : String) (parameter : Value) : DataSource :=
  { d with
    queries := d.queries.insert statement (d.queryCountFor statement + 1)
    parameters := d.parameters ++ [(statement, parameter)] }

def recordUpdate (d : DataSource) (statement : String) (parameter : Value) : DataSource :=
  { d with
    updates := d.updates + 1
    parameters := d.parameters ++ [(statement, parameter)] }

/-- The parameter of the latest query or update. -/
def lastParameter? (d : DataSource) : Option Value :=
  d.parameters.getLast?.map Prod.snd

end DataSource

end DataMapper
