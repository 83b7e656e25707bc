import DataMapper.Error
import DataMapper.Named
import DataMapper.Settings
import DataMapper.Statement
/-!
# Catalogs

The settings, the mapped statements and the cache regions that all sessions share. Ids are unique,
and a region id stands for one region.
-/

namespace DataMapper

structure Catalog where
  settings : Settings := {}
  statements : NameMap MappedStatement := .empty
  regions : NameMap RegionRef := .empty

namespace Catalog

/-- The regions after a statement was added: its region is entered if the id is new. -/
def regionsWith? (c : Catalog) (statement : MappedStatement) :
    Except Error (NameMap RegionRef) :=
  match statement.cache with
  | none => .ok c.regions
  | some region =>
    match c.regions.get? region.id with
    | none => .ok (c.regions.insert region.id region)
    | some known =>
      if known.slot = region.slot then .ok c.regions
      else .error (.cache (.duplicateRegion region.id))

def addStatement (c : Catalog) (statement : MappedStatement) : Except Error Catalog :=
  if c.statements.contains statement.id then
    .error (.binding (.duplicateStatement statement.id))
  else
    (c.regionsWith? statement).map fun regions =>
      { c with statements := c.statements.insert statement.id statement, regions }

def addRegion (c : Catalog) (region : RegionRef) : Except Error Catalog :=
  if c.regions.contains region.id then .error (.cache (.duplicateRegion region.id))
  else .ok { c with regions := c.regions.insert region.id region }

def statement (c : Catalog) (id : String) : Except BindingError MappedStatement :=
  match c.statements.get? id with
  | some s => .ok s
  | none => .error (.statementNotFound id)

def hasStatement (c : Catalog) (id : String) : Bool :=
  c.statements.contains id

def statementIds (c : Catalog) : List String :=
  c.statements.names

def region? (c : Catalog) (id : String) : Option RegionRef :=
  c.regions.get? id

def regionIds (c : Catalog) : List String :=
  c.regions.names

end Catalog

end DataMapper
