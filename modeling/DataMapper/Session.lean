import DataMapper.Catalog
import DataMapper.Cursor
import DataMapper.Executor.Basic
/-!
# Sessions

A session owns one executor, knows whether it has written, and so decides whether a commit or a
rollback has to reach the data source. A handler that breaks down inside a session seals it.
-/

namespace DataMapper

open Text

structure Session where
  executor : Executor
  autoCommit : Bool
  dirty : Bool := false
  /-- Set when a handler broke down inside a call of the session. -/
  poisoned : Bool := false

/-- Rows by the value of one of their properties. -/
abbrev KeyedRows := Table Value Value

namespace KeyedRows

/-- The pairs in the order of their encoded keys. -/
def sorted (rows : KeyedRows) : List (Value × Value) :=
  rows.entries.mergeSort fun a b => a.1.encode ≤ b.1.encode

end KeyedRows

namespace Session

/-- What a call makes of a session: its outcome, the session and the shared state. -/
abbrev Result (α : Type) := Outcome α × Session × Shared

def poisonedError : Error :=
  .transaction .sessionPoisoned

/-- Whether a boundary has to reach the data source. -/
def boundaryRequired (s : Session) (force : Bool) : Bool :=
  force || (!s.autoCommit && s.dirty)

/-- Runs a call on an unsealed session. -/
def guarded {α : Type} (s : Session) (shared : Shared) (call : Result α) : Result α :=
  if s.poisoned then (.error (.error poisonedError), s, shared) else call

/-- Finds a statement and runs a call with it. An unknown statement is reported even by a sealed
session. -/
def withStatement {α : Type} (s : Session) (catalog : Catalog) (id : String) (shared : Shared)
    (call : MappedStatement → Result α) : Result α :=
  match catalog.statement id with
  | .error e => (.error (.error (.binding e)), s, shared)
  | .ok statement => s.guarded shared (call statement)

/-- Seals the session if a handler broke down. -/
def sealedBy {α : Type} (outcome : Outcome α) (s : Session) : Session :=
  match outcome with
  | .error .handlerBroke => { s with poisoned := true }
  | _ => s

def query (s : Session) (statement : MappedStatement) (parameter : Value) (bounds : RowBounds)
    (handler : Option Handler) (shared : Shared) : Result Rows :=
  let (outcome, executor, shared) :=
    s.executor.query statement parameter bounds handler shared
  (outcome, sealedBy outcome { s with executor }, shared)

def selectList (s : Session) (catalog : Catalog) (id : String) (parameter : Value)
    (bounds : RowBounds) (shared : Shared) : Result Rows :=
  s.withStatement catalog id shared fun statement =>
    s.query statement parameter bounds none shared

/-- The only row, if there is any. -/
def single (id : String) : Rows → Except ResultError (Option Value)
  | [] => .ok none
  | [row] => .ok (some row)
  | rows => .error (.tooManyResults id rows.length)

/-- Rows by the value of a property that all of them have. Later rows replace earlier ones. -/
def keyBy (id key : String) : Rows → KeyedRows → Except ResultError KeyedRows
  | [], keyed => .ok keyed
  | row :: rest, keyed =>
    match row.get? key with
    | none => .error (.mapKeyMissing id key)
    | some value => keyBy id key rest (keyed.insert value row)

/-- Shapes the rows of a select. -/
def shaped {α : Type} (shape : Rows → Except ResultError α) : Result Rows → Result α
  | (.error e, s, shared) => (.error e, s, shared)
  | (.ok rows, s, shared) =>
    match shape rows with
    | .error e => (.error (.error (.result e)), s, shared)
    | .ok a => (.ok a, s, shared)

def selectOne (s : Session) (catalog : Catalog) (id : String) (parameter : Value)
    (shared : Shared) : Result (Option Value) :=
  shaped (single id) (s.selectList catalog id parameter .all shared)

def selectMap (s : Session) (catalog : Catalog) (id : String) (parameter : Value) (key : String)
    (bounds : RowBounds) (shared : Shared) : Result KeyedRows :=
  shaped (fun rows => keyBy id key rows .empty)
    (s.selectList catalog id parameter bounds shared)

/-- The result of a call of the executor, as that of the session. -/
def ofExecutor {α : Type} (s : Session) (call : Except Error α × Executor × Shared) : Result α :=
  let (result, executor, shared) := call
  (Outcome.ofExcept result, { s with executor }, shared)

def selectCursor (s : Session) (catalog : Catalog) (id : String) (parameter : Value)
    (bounds : RowBounds) (shared : Shared) : Result Cursor :=
  s.withStatement catalog id shared fun statement =>
    let (outcome, s, shared) :=
      s.ofExecutor (s.executor.queryCursor statement parameter bounds shared)
    (outcome.map Cursor.ofRows, s, shared)

/-- Runs a select whose rows go to a handler. -/
def select (s : Session) (catalog : Catalog) (id : String) (parameter : Value)
    (bounds : RowBounds) (handler : Handler) (shared : Shared) : Result Unit :=
  s.withStatement catalog id shared fun statement =>
    let (outcome, s, shared) := s.query statement parameter bounds (some handler) shared
    (outcome.map fun _ => (), s, shared)

/-- Runs a statement that writes. The session counts as written even if the write fails. -/
def write (s : Session) (catalog : Catalog) (id : String) (parameter : Value)
    (shared : Shared) : Result Nat :=
  s.withStatement catalog id shared fun statement =>
    { s with dirty := true }.ofExecutor (s.executor.update statement parameter shared)

/-- Commits. A failed commit leaves the session as written as before. -/
def commit (s : Session) (force : Bool) (shared : Shared) : Result Unit :=
  s.guarded shared <|
    match s.executor.commit (s.boundaryRequired force) shared with
    | (.error e, executor, shared) => (.error (.error e), { s with executor }, shared)
    | (.ok _, executor, shared) => (.ok (), { s with executor, dirty := false }, shared)

/-- Rolls back. Even a failed rollback leaves nothing written. -/
def rollback (s : Session) (force : Bool) (shared : Shared) : Result Unit :=
  s.guarded shared <|
    { s with dirty := false }.ofExecutor
      (s.executor.rollback (s.boundaryRequired force) shared)

def flushStatements (s : Session) (shared : Shared) : Result Unit :=
  s.guarded shared <| s.ofExecutor (s.executor.flushStatements shared)

/-- Closes, with a rollback of uncommitted writes. -/
def close (s : Session) (shared : Shared) : Result Unit :=
  s.guarded shared <|
    { s with dirty := false }.ofExecutor (s.executor.close (s.boundaryRequired false) shared)

/-- Forgets the keys that the connection has answered. -/
def clearCache (s : Session) (shared : Shared) : Result Unit :=
  s.guarded shared (.ok (), { s with executor := s.executor.clearLocalCache }, shared)

def isDirty (s : Session) : Except Error Bool :=
  if s.poisoned then .error poisonedError else .ok s.dirty

def isClosed (s : Session) : Except Error Bool :=
  if s.poisoned then .error poisonedError else .ok s.executor.isClosed

/-- The end of a session: an executor that is still open is closed, even in a sealed session. What
closing reports is lost. -/
def drop (s : Session) (shared : Shared) : Shared :=
  if s.executor.isClosed then shared
  else (s.executor.close (s.boundaryRequired false) shared).2.2

def inspect (s : Session) : String :=
  let state := if s.poisoned then []
    else [("dirty", inspectBool s.dirty), ("closed", inspectBool s.executor.isClosed)]
  inspectOpenRecord "DefaultSqlSession" (("auto_commit", inspectBool s.autoCommit) :: state)

end Session

/-- The calls of a session, as data. -/
inductive SessionCall where
  | selectOne (id : String) (parameter : Value)
  | selectList (id : String) (parameter : Value) (bounds : RowBounds)
  | selectMap (id : String) (parameter : Value) (key : String) (bounds : RowBounds)
  | selectCursor (id : String) (parameter : Value) (bounds : RowBounds)
  | select (id : String) (parameter : Value) (bounds : RowBounds) (handler : Handler)
  | insert (id : String) (parameter : Value)
  | update (id : String) (parameter : Value)
  | delete (id : String) (parameter : Value)
  | commit (force : Bool)
  | rollback (force : Bool)
  | flushStatements
  | close
  | clearCache
  deriving DecidableEq

/-- The answers to calls of a session. -/
inductive SessionReply where
  | done
  | row (row : Option Value)
  | rows (rows : Rows)
  | keyed (rows : KeyedRows)
  | cursor (cursor : Cursor)
  | count (n : Nat)

namespace Session

/-- The answer of a call in its general form. -/
def reply {α : Type} (wrap : α → SessionReply) : Result α → Result SessionReply
  | (outcome, s, shared) => (outcome.map wrap, s, shared)

/-- Runs a call that is given as data. -/
def perform (s : Session) (catalog : Catalog) (shared : Shared) :
    SessionCall → Result SessionReply
  | .selectOne id parameter => reply .row (s.selectOne catalog id parameter shared)
  | .selectList id parameter bounds =>
    reply .rows (s.selectList catalog id parameter bounds shared)
  | .selectMap id parameter key bounds =>
    reply .keyed (s.selectMap catalog id parameter key bounds shared)
  | .selectCursor id parameter bounds =>
    reply .cursor (s.selectCursor catalog id parameter bounds shared)
  | .select id parameter bounds handler =>
    reply (fun () => .done) (s.select catalog id parameter bounds handler shared)
  | .insert id parameter | .update id parameter | .delete id parameter =>
    reply .count (s.write catalog id parameter shared)
  | .commit force => reply (fun () => .done) (s.commit force shared)
  | .rollback force => reply (fun () => .done) (s.rollback force shared)
  | .flushStatements => reply (fun () => .done) (s.flushStatements shared)
  | .close => reply (fun () => .done) (s.close shared)
  | .clearCache => reply (fun () => .done) (s.clearCache shared)

end Session

end DataMapper
