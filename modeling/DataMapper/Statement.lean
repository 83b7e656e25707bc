import DataMapper.Text.Inspect
/-!
# Mapped statements

Named units of database work: their kind, their parameters, and the flags that say how they use a
cache region.
-/

namespace DataMapper

open Text

/-- The window of rows that a select answers with. -/
structure RowBounds where
  offset : UInt64 := 0
  limit : UInt64 := 18446744073709551615
  deriving DecidableEq, Repr, Inhabited

namespace RowBounds

/-- The window over all rows. -/
def all : RowBounds := {}

def isAll (b : RowBounds) : Bool :=
  b == all

/-- The rows inside the window. -/
def slice {α : Type} (b : RowBounds) (rows : List α) : List α :=
  (rows.drop b.offset.toNat).take b.limit.toNat

def inspect (b : RowBounds) : String :=
  inspectRecord "RowBounds" [("offset", toString b.offset), ("limit", toString b.limit)]

end RowBounds

/-- The kind of work that a statement performs. -/
inductive CommandType where
  | select
  | insert
  | update
  | delete
  | flush
  deriving DecidableEq, Repr

namespace CommandType

def isSelect (t : CommandType) : Bool :=
  t == select

def name : CommandType → String
  | select => "Select"
  | insert => "Insert"
  | update => "Update"
  | delete => "Delete"
  | flush => "Flush"

end CommandType

/-- How a statement is issued to the driver. -/
inductive StatementType where
  | direct
  | prepared
  | callable
  deriving DecidableEq, Repr

def StatementType.name : StatementType → String
  | direct => "Statement"
  | prepared => "Prepared"
  | callable => "Callable"

/-- The direction of a statement parameter. -/
inductive ParameterMode where
  | input
  | output
  | inputOutput
  deriving DecidableEq, Repr

def ParameterMode.name : ParameterMode → String
  | input => "In"
  | output => "Out"
  | inputOutput => "InOut"

/-- A positional parameter, resolved by a property path of the bound parameter. -/
structure ParameterMapping where
  property : String
  mode : ParameterMode := .input
  deriving DecidableEq, Repr

def ParameterMapping.inspect (m : ParameterMapping) : String :=
  inspectRecord "ParameterMapping" [("property", quoted m.property), ("mode", m.mode.name)]

/-- A reference to a cache region: which region object it is, and the id of that object. Distinct
objects may have one id. -/
structure RegionRef where
  slot : Nat
  id : String
  deriving DecidableEq, Repr

structure MappedStatement where
  id : String
  commandType : CommandType
  statementType : StatementType := .prepared
  useCache : Bool := commandType.isSelect
  flushCacheRequired : Bool := !commandType.isSelect
  cache : Option RegionRef := none
  parameterMappings : List ParameterMapping := []
  deriving DecidableEq, Repr

namespace MappedStatement

/-- Whether the statement is a callable with a parameter that is not input only. -/
def hasOutParams (s : MappedStatement) : Bool :=
  s.statementType == .callable && s.parameterMappings.any fun m => m.mode != .input

def inspect (s : MappedStatement) : String :=
  inspectRecord "MappedStatement"
    [("id", quoted s.id),
      ("command_type", s.commandType.name),
      ("statement_type", s.statementType.name),
      ("use_cache", inspectBool s.useCache),
      ("flush_cache_required", inspectBool s.flushCacheRequired),
      ("cache", inspectOption (s.cache.map fun region => quoted region.id)),
      ("parameter_mappings", inspectList (s.parameterMappings.map ParameterMapping.inspect))]

/-- A select that no region caches. -/
def uncachedSelect (id : String) (properties : List String) : MappedStatement :=
  { id, commandType := .select,
    parameterMappings := properties.map fun p => { property := p } }

/-- A select cached in a region. -/
def cachedSelect (id : String) (region : RegionRef) (properties : List String) :
    MappedStatement :=
  { uncachedSelect id properties with cache := some region }

/-- An update that flushes a region. -/
def flushingUpdate (id : String) (region : RegionRef) : MappedStatement :=
  { id, commandType := .update, cache := some region }

/-- A callable select with an output parameter, attached to a region. -/
def callableWithOutParam (id : String) (region : RegionRef) : MappedStatement :=
  { id, commandType := .select, statementType := .callable, cache := some region,
    parameterMappings := [{ property := "id" }, { property := "total", mode := .output }] }

end MappedStatement

end DataMapper
