import DataMapper.Mapper.Factory
/-!
# The mapper registry

The factories of all known mapper types. Types and interface names are in one-to-one
correspondence, and only well-formed interfaces are known.
-/

namespace DataMapper

/-- A type that stands for a mapper interface. -/
structure MapperType where
  type : TypeRef
  interface : MapperInterface

structure MapperRegistry where
  /-- Factories by type. -/
  known : Table Nat MapperFactory := .empty
  /-- Types by interface name. -/
  typeOf : NameMap TypeRef := .empty

namespace MapperRegistry

def empty : MapperRegistry := {}

def add (r : MapperRegistry) (t : MapperType) : Except BindingError MapperRegistry :=
  if r.known.contains t.type.id then .error (.duplicateMapper t.type.name)
  else if r.typeOf.contains t.interface.name then .error (.duplicateMapper t.interface.name)
  else
    match t.interface.validate with
    | .error e => .error e
    | .ok () =>
      .ok { known := r.known.insert t.type.id { interface := t.interface }
            typeOf := r.typeOf.insert t.interface.name t.type }

def contains (r : MapperRegistry) (type : TypeRef) : Bool :=
  r.known.contains type.id

/-- The names of all known interfaces. -/
def names (r : MapperRegistry) : List String :=
  r.typeOf.names

def size (r : MapperRegistry) : Nat :=
  r.known.size

def factory (r : MapperRegistry) (type : TypeRef) : Except BindingError MapperFactory :=
  match r.known.get? type.id with
  | some f => .ok f
  | none => .error (.unknownMapper type.name)

/-- The type whose interface has a name. -/
def typeNamed (r : MapperRegistry) (name : String) : Except BindingError TypeRef :=
  match r.typeOf.get? name with
  | some type => if r.known.contains type.id then .ok type else .error (.unknownMapper name)
  | none => .error (.unknownMapper name)

/-- The factory whose interface has a name. -/
def factoryNamed (r : MapperRegistry) (name : String) : Except BindingError MapperFactory :=
  match (r.typeOf.get? name).bind fun type => r.known.get? type.id with
  | some f => .ok f
  | none => .error (.unknownMapper name)

/-- Puts a factory that has resolved methods back in its place. -/
def setFactory (r : MapperRegistry) (type : TypeRef) (f : MapperFactory) : MapperRegistry :=
  if r.known.contains type.id then { r with known := r.known.insert type.id f } else r

end MapperRegistry

end DataMapper
