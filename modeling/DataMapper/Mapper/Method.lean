import DataMapper.Mapper.Params
import DataMapper.Mapper.Result
/-!
# Mapper methods

Methods that are carried out by a statement. Such a method is resolved once, which fixes the
statement, the names of the parameters and the shape of the result; each call then makes one call
of the session.
-/

namespace DataMapper

open Text

/-- The statement that a method runs, and its kind. -/
structure Command where
  name : String
  commandType : CommandType
  deriving DecidableEq, Repr

def Command.inspect (c : Command) : String :=
  inspectRecord "SqlCommand" [("name", quoted c.name), ("command_type", c.commandType.name)]

/-- A resolved method. -/
structure MapperMethod where
  command : Command
  method : String
  returns : ReturnKind
  paramKinds : List ParamKind
  rowBoundsIndex : Option Nat
  resultHandlerIndex : Option Nat
  params : ParamNames
  deriving DecidableEq

namespace MapperMethod

/-- The id of the statement named after interface and method. -/
def defaultId (i : MapperInterface) (m : MethodSignature) : String :=
  i.name ++ "." ++ m.name

def resolveCommand (catalog : Catalog) (i : MapperInterface) (m : MethodSignature) :
    Except BindingError Command :=
  match m.body with
  | .flush => .ok ⟨defaultId i m, .flush⟩
  | .statement id =>
    let name := id.getD (defaultId i m)
    match catalog.statement name with
    | .error e => .error e
    | .ok statement => .ok ⟨name, statement.commandType⟩
  | .default _ => .error (.invalidSignature i.name m.name "default methods have no statement")

/-- Why a kind of command cannot produce the declared result. -/
def returnFault? (commandType : CommandType) (m : MethodSignature) : Option String :=
  match commandType, m.returns with
  | .select, .affectedRows | .select, .flag => some "selects cannot return a row count"
  | .select, .void =>
    if m.resultHandlerIndex?.isNone then some "void selects need a result handler parameter"
    else none
  | .select, _ => none
  | .flush, .void => none
  | .flush, _ => some "flush methods return nothing"
  | _, .one | _, .many | _, .map _ | _, .cursor => some "mutations cannot return rows"
  | _, _ => none

/-- Resolves a signature. -/
def resolve (catalog : Catalog) (i : MapperInterface) (m : MethodSignature) :
    Except BindingError MapperMethod :=
  match resolveCommand catalog i m with
  | .error e => .error e
  | .ok command =>
    match returnFault? command.commandType m with
    | some reason => .error (.invalidSignature i.name m.name reason)
    | none =>
      .ok { command
            method := m.name
            returns := m.returns
            paramKinds := m.params.map ParamSpec.kind
            rowBoundsIndex := m.rowBoundsIndex?
            resultHandlerIndex := m.resultHandlerIndex?
            params := .ofSignature m catalog.settings.useActualParamName }

def kindError (m : MapperMethod) (index : Nat) (expected : String) : BindingError :=
  .argumentKind m.method index expected

/-- Compares arguments with the declared kinds, from a position on. -/
def checkKinds (m : MapperMethod) : Nat → List Arg → List ParamKind → Except BindingError Unit
  | index, arg :: args, kind :: kinds =>
    if arg.kind = kind then checkKinds m (index + 1) args kinds
    else .error (m.kindError index kind.describe)
  | _, _, _ => .ok ()

def checkArgs (m : MapperMethod) (args : List Arg) : Except BindingError Unit :=
  if args.length ≠ m.paramKinds.length then
    .error (.argumentCount m.method m.paramKinds.length args.length)
  else m.checkKinds 0 args m.paramKinds

/-- The row bounds among the arguments, or else all rows. -/
def rowBounds (m : MapperMethod) (args : List Arg) : RowBounds :=
  match m.rowBoundsIndex.bind fun i => args[i]? with
  | some (.bounds b) => b
  | _ => .all

/-- The call of the session that a select makes. -/
def planSelect (m : MapperMethod) (args : List Arg) (parameter : Value) :
    Except Error SessionCall :=
  let id := m.command.name
  let bounds := m.rowBounds args
  match m.returns with
  | .void =>
    let index := m.resultHandlerIndex.getD 0
    match args[index]? with
    | some (.handler h) => .ok (.select id parameter bounds h)
    | _ => .error (.binding (m.kindError index "a result handler"))
  | .many => .ok (.selectList id parameter bounds)
  | .map key => .ok (.selectMap id parameter key bounds)
  | .cursor => .ok (.selectCursor id parameter bounds)
  | .one => .ok (.selectOne id parameter)
  | .affectedRows | .flag => .error (.result (.unexpectedShape "row result" "row count"))

/-- Checks and binds arguments, and so finds the one call of the session to make. -/
def plan (m : MapperMethod) (args : List Arg) : Except Error SessionCall :=
  match m.checkArgs args with
  | .error e => .error (.binding e)
  | .ok () =>
    match m.params.bind args with
    | .error e => .error (.binding e)
    | .ok parameter =>
      match m.command.commandType with
      | .insert => .ok (.insert m.command.name parameter)
      | .update => .ok (.update m.command.name parameter)
      | .delete => .ok (.delete m.command.name parameter)
      | .flush => .ok .flushStatements
      | .select => m.planSelect args parameter

/-- The result that a number of affected rows is declared to give. -/
def countResult (m : MapperMethod) (n : Nat) : MapperResult :=
  match m.returns with
  | .affectedRows => .affectedRows n
  | .flag => .flag (0 < n)
  | _ => .void

/-- Shapes the answer of the session. -/
def shape (m : MapperMethod) : SessionReply → MapperResult
  | .done => .void
  | .row row => .one row
  | .rows rows => .many rows
  | .keyed rows => .map rows
  | .cursor c => .cursor c
  | .count n => m.countResult n

/-- Runs the method on a session. -/
def execute (m : MapperMethod) (catalog : Catalog) (args : List Arg) (s : Session)
    (shared : Shared) : Session.Result MapperResult :=
  match m.plan args with
  | .error e => (.error (.error e), s, shared)
  | .ok call =>
    let (outcome, s, shared) := s.perform catalog shared call
    (outcome.map m.shape, s, shared)

def inspect (m : MapperMethod) : String :=
  inspectRecord "MapperMethod"
    [("command", m.command.inspect), ("method", quoted m.method),
      ("returns", m.returns.inspect), ("arity", toString m.paramKinds.length),
      ("param_kinds", inspectList (m.paramKinds.map ParamKind.name)),
      ("row_bounds_index", inspectOption (m.rowBoundsIndex.map toString)),
      ("result_handler_index", inspectOption (m.resultHandlerIndex.map toString)),
      ("resolver", m.params.inspect)]

end MapperMethod

end DataMapper
