import DataMapper.Text.Inspect
/-!
# Errors

The causes of failure, by the layer that reports them, with the message and the inspection text of
each.
-/

namespace DataMapper

/-- Failures of mapper binding and of parameter resolution. -/
inductive BindingError where
  | unknownMapper (mapper : String)
  | duplicateMapper (mapper : String)
  | statementNotFound (statement : String)
  | duplicateStatement (statement : String)
  | invalidSignature (mapper method reason : String)
  | argumentCount (method : String) (expected got : Nat)
  | argumentKind (method : String) (index : Nat) (expected : String)
  | parameterNotFound (name : String) (available : List String)
  | unknownMethod (mapper method : String)
  deriving DecidableEq, Repr

/-- Failures of cache regions. -/
inductive CacheError where
  | outParamsNotCacheable (statement : String)
  | backend (region reason : String)
  | lockPoisoned (region : String)
  | duplicateRegion (region : String)
  deriving DecidableEq, Repr

/-- What one region reported while several were committed. -/
structure RegionFailure where
  region : String
  reason : String
  deriving DecidableEq, Repr

/-- Failures at a transaction boundary. -/
inductive TransactionError where
  | regions (operation : String) (failures : List RegionFailure)
  | executorClosed
  | sessionPoisoned
  | compound (operation delegate cache : String)
  deriving DecidableEq, Repr

/-- Failures of shaping a result. -/
inductive ResultError where
  | tooManyResults (statement : String) (found : Nat)
  | mapKeyMissing (statement key : String)
  | unexpectedShape (expected found : String)
  deriving DecidableEq, Repr

inductive Error where
  | binding (cause : BindingError)
  | cache (cause : CacheError)
  | transaction (cause : TransactionError)
  | result (cause : ResultError)
  /-- A failure of the data source itself. -/
  | source (message : String)
  deriving DecidableEq, Repr

open Text

/-- A constructor with its fields. -/
def inspectCause (name : String) (fields : List (String × String)) : String :=
  if fields.isEmpty then name else inspectRecord name fields

namespace BindingError

def name : BindingError → String
  | unknownMapper .. => "UnknownMapper"
  | duplicateMapper .. => "DuplicateMapper"
  | statementNotFound .. => "StatementNotFound"
  | duplicateStatement .. => "DuplicateStatement"
  | invalidSignature .. => "InvalidSignature"
  | argumentCount .. => "ArgumentCount"
  | argumentKind .. => "ArgumentKind"
  | parameterNotFound .. => "ParameterNotFound"
  | unknownMethod .. => "UnknownMethod"

def message : BindingError → String
  | unknownMapper mapper => s!"Type {mapper} is not known to the mapper registry"
  | duplicateMapper mapper => s!"Type {mapper} is already known to the mapper registry"
  | statementNotFound statement => s!"Invalid bound statement (not found): {statement}"
  | duplicateStatement statement => s!"Mapped statement {statement} is already registered"
  | invalidSignature mapper method reason =>
    s!"Invalid signature for {mapper}.{method}: {reason}"
  | argumentCount method expected got =>
    s!"Method {method} expects {expected} arguments, got {got}"
  | argumentKind method index expected => s!"Argument {index} of {method} must be {expected}"
  | parameterNotFound name available =>
    "Parameter '" ++ name ++ "' not found. Available parameters are " ++
      inspectList (available.map quoted)
  | unknownMethod mapper method => s!"Method {method} is not declared on {mapper}"

def fields : BindingError → List (String × String)
  | unknownMapper mapper | duplicateMapper mapper => [("mapper", quoted mapper)]
  | statementNotFound statement | duplicateStatement statement =>
    [("statement_id", quoted statement)]
  | invalidSignature mapper method reason =>
    [("mapper", quoted mapper), ("method", quoted method), ("reason", quoted reason)]
  | argumentCount method expected got =>
    [("method", quoted method), ("expected", toString expected), ("got", toString got)]
  | argumentKind method index expected =>
    [("method", quoted method), ("index", toString index), ("expected", quoted expected)]
  | parameterNotFound name available =>
    [("name", quoted name), ("available", inspectList (available.map quoted))]
  | unknownMethod mapper method => [("mapper", quoted mapper), ("method", quoted method)]

def inspect (e : BindingError) : String :=
  inspectCause e.name e.fields

end BindingError

namespace CacheError

def name : CacheError → String
  | outParamsNotCacheable .. => "OutParamsNotCacheable"
  | backend .. => "Backend"
  | lockPoisoned .. => "LockPoisoned"
  | duplicateRegion .. => "DuplicateRegion"

def message : CacheError → String
  | outParamsNotCacheable statement =>
    "Caching stored procedures with OUT params is not supported. " ++
      s!"Please configure use_cache = false in {statement} statement"
  | backend region reason => s!"Cache region {region} failed: {reason}"
  | lockPoisoned region => s!"Cache region {region} lock poisoned"
  | duplicateRegion region => s!"Cache region {region} is already registered"

def fields : CacheError → List (String × String)
  | outParamsNotCacheable statement => [("statement_id", quoted statement)]
  | backend region reason => [("region", quoted region), ("reason", quoted reason)]
  | lockPoisoned region | duplicateRegion region => [("region", quoted region)]

def inspect (e : CacheError) : String :=
  inspectCause e.name e.fields

end CacheError

def RegionFailure.inspect (f : RegionFailure) : String :=
  inspectRecord "RegionFailure" [("region", quoted f.region), ("reason", quoted f.reason)]

namespace TransactionError

def name : TransactionError → String
  | regions .. => "Regions"
  | executorClosed => "ExecutorClosed"
  | sessionPoisoned => "SessionPoisoned"
  | compound .. => "Compound"

def message : TransactionError → String
  | regions operation failures =>
    s!"{operation} failed for {failures.length} cache region(s): " ++
      inspectList (failures.map RegionFailure.inspect)
  | executorClosed => "Executor was closed"
  | sessionPoisoned => "Session state lock poisoned"
  | compound operation delegate cache =>
    s!"Delegate {operation} failed ({delegate}); cache step also failed ({cache})"

def fields : TransactionError → List (String × String)
  | regions operation failures =>
    [("operation", quoted operation),
      ("failures", inspectList (failures.map RegionFailure.inspect))]
  | executorClosed | sessionPoisoned => []
  | compound operation delegate cache =>
    [("operation", quoted operation), ("delegate", quoted delegate), ("cache", quoted cache)]

def inspect (e : TransactionError) : String :=
  inspectCause e.name e.fields

end TransactionError

namespace ResultError

def name : ResultError → String
  | tooManyResults .. => "TooManyResults"
  | mapKeyMissing .. => "MapKeyMissing"
  | unexpectedShape .. => "UnexpectedShape"

def message : ResultError → String
  | tooManyResults statement found =>
    s!"Expected one result (or null) to be returned by {statement}, but found: {found}"
  | mapKeyMissing statement key =>
    "Row returned by " ++ statement ++ " has no map key property '" ++ key ++ "'"
  | unexpectedShape expected found => s!"Expected a {expected} result, got {found}"

def fields : ResultError → List (String × String)
  | tooManyResults statement found =>
    [("statement_id", quoted statement), ("found", toString found)]
  | mapKeyMissing statement key => [("statement_id", quoted statement), ("key", quoted key)]
  | unexpectedShape expected found => [("expected", quoted expected), ("found", quoted found)]

def inspect (e : ResultError) : String :=
  inspectCause e.name e.fields

end ResultError

namespace Error

/-- The layer that reports an error, and the name of the cause inside this layer. -/
def kind : Error → String
  | binding cause => "Binding." ++ cause.name
  | cache cause => "Cache." ++ cause.name
  | transaction cause => "Transaction." ++ cause.name
  | result cause => "Result." ++ cause.name
  | source _ => "Executor"

/-- The message of an error: that of its cause behind the name of the layer. -/
def message : Error → String
  | binding cause => "Binding error: " ++ cause.message
  | cache cause => "Cache error: " ++ cause.message
  | transaction cause => "Transaction error: " ++ cause.message
  | result cause => "Result error: " ++ cause.message
  | source message => "Executor error: " ++ message

def inspect : Error → String
  | binding cause => inspectVariant "Binding" [cause.inspect]
  | cache cause => inspectVariant "Cache" [cause.inspect]
  | transaction cause => inspectVariant "Transaction" [cause.inspect]
  | result cause => inspectVariant "Result" [cause.inspect]
  | source message =>
    inspectVariant "Executor" [inspectCause "ExecutorError" [("message", quoted message)]]

end Error

end DataMapper
