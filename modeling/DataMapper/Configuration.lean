import DataMapper.Mapper.Registry
/-!
# Configurations

A catalog together with the mappers over it. A configuration is put together once, and then shared
by all sessions.
-/

namespace DataMapper

open Text

structure Configuration extends Catalog where
  mappers : MapperRegistry := .empty

namespace Configuration

def ofSettings (settings : Settings) : Configuration :=
  { settings }

def addStatement (c : Configuration) (statement : MappedStatement) :
    Except Error Configuration :=
  (c.toCatalog.addStatement statement).map fun catalog => { c with toCatalog := catalog }

def addRegion (c : Configuration) (region : RegionRef) : Except Error Configuration :=
  (c.toCatalog.addRegion region).map fun catalog => { c with toCatalog := catalog }

def addMapper (c : Configuration) (t : MapperType) : Except Error Configuration :=
  match c.mappers.add t with
  | .error e => .error (.binding e)
  | .ok mappers => .ok { c with mappers }

def inspect (c : Configuration) : String :=
  inspectRecord "Configuration"
    [("settings", c.settings.inspect),
      ("statements", inspectList (c.statementIds.map quoted)),
      ("caches", inspectList (c.regionIds.map quoted)),
      ("mappers", inspectList (c.mappers.names.map quoted))]

/-- The inspection text of a session factory over the configuration. -/
def inspectFactory (c : Configuration) : String :=
  inspectOpenRecord "DefaultSqlSessionFactory" [("configuration", c.inspect)]

end Configuration

end DataMapper
