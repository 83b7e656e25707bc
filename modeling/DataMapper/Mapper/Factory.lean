import DataMapper.Mapper.Method
/-!
# Mapper factories

A factory stands for one mapper interface and keeps the methods resolved so far. A method is looked
up under a shared lock first; resolving one happens under an exclusive lock, after a second look.
-/

namespace DataMapper

open Text

/-- What carries a resolved method out. -/
inductive Invoker where
  | plain (method : MapperMethod)
  | default (body : DefaultBody)

def Invoker.inspect : Invoker → String
  | plain method => inspectVariant "Plain" [method.inspect]
  | default _ => "Default(..)"

structure MapperFactory where
  interface : MapperInterface
  invokers : NameMap Invoker := .empty
  /-- The number of methods ever resolved. -/
  resolutions : Nat := 0

namespace MapperFactory

/-- The number of methods kept. -/
def cachedCount (f : MapperFactory) : Nat :=
  f.invokers.size

/-- What a method of the interface resolves to. -/
def resolve (f : MapperFactory) (catalog : Catalog) (method : String) :
    Except BindingError Invoker :=
  match f.interface.findMethod? method with
  | none => .error (.unknownMethod f.interface.name method)
  | some m =>
    match m.body with
    | .default body => .ok (.default body)
    | .statement _ | .flush => (MapperMethod.resolve catalog f.interface m).map .plain

/-- The section under the shared lock. -/
def lookup? (f : MapperFactory) (method : String) : Option Invoker :=
  f.invokers.get? method

/-- The section under the exclusive lock: another caller may have resolved the method meanwhile.
What fails to resolve is not kept. -/
def resolveOnce (f : MapperFactory) (catalog : Catalog) (method : String) :
    Except BindingError Invoker × MapperFactory :=
  match f.lookup? method with
  | some invoker => (.ok invoker, f)
  | none =>
    match f.resolve catalog method with
    | .error e => (.error e, f)
    | .ok invoker =>
      (.ok invoker,
        { f with
          invokers := f.invokers.insert method invoker
          resolutions := f.resolutions + 1 })

/-- The invoker of a method, resolved on first use. -/
def invoker (f : MapperFactory) (catalog : Catalog) (method : String) :
    Except BindingError Invoker × MapperFactory :=
  match f.lookup? method with
  | some invoker => (.ok invoker, f)
  | none => f.resolveOnce catalog method

def inspect (f : MapperFactory) : String :=
  inspectRecord "MapperProxyFactory"
    [("interface", quoted f.interface.name), ("cached_methods", toString f.cachedCount)]

end MapperFactory

end DataMapper
