import DataMapper.Digest
import DataMapper.Mapper.Factory
/-!
# Mapper proxies

A mapper bound to a session. A proxy answers for its own identity, and routes every other call
through its factory to a method.
-/

namespace DataMapper

open Text

/-- Which factory a proxy comes from. -/
inductive FactoryRef where
  | registered (type : TypeRef)
  | standalone (index : Nat)
  deriving DecidableEq, Repr

/-- The identity of a proxy: its factory and its session. -/
structure MapperProxy where
  factory : FactoryRef
  session : Nat
  deriving DecidableEq, Repr

def FactoryRef.digestInput : FactoryRef → List UInt8
  | registered type => 0 :: littleEndian 8 type.id
  | standalone index => 1 :: littleEndian 8 index

namespace MapperProxy

/-- A number that stands for the identity of the proxy. -/
def hashCode (p : MapperProxy) : Int64 :=
  (Digest.ofBytes (littleEndian 8 p.session ++ p.factory.digestInput)).toInt64

def render (p : MapperProxy) (interface : String) : String :=
  "MapperProxy(" ++ interface ++ ")@" ++ hexDigits p.session

/-- Answers with a result if the number of arguments is right. -/
def expectArgs (method : String) (expected : Nat) (args : List Arg) (result : MapperResult) :
    Except Error MapperResult :=
  if args.length = expected then .ok result
  else .error (.binding (.argumentCount method expected args.length))

/-- The answers that a proxy gives itself. -/
def objectMethod? (p : MapperProxy) (interface method : String) (args : List Arg) :
    Option (Except Error MapperResult) :=
  if method = "to_string" then
    some (expectArgs method 0 args (.one (some (.text (p.render interface)))))
  else if method = "hash_code" then
    some (expectArgs method 0 args (.one (some (.int p.hashCode))))
  else if method = "equals" then
    let same := args.head?.bind Arg.value? = some (.int p.hashCode)
    some (expectArgs method 1 args (.flag same))
  else none

end MapperProxy

/-- What a mapper call works on. -/
structure MapperState where
  factory : MapperFactory
  session : Session
  shared : Shared

namespace MapperState

/-- The outcome of a call of the session, with the state after it. -/
def ofSession {α β : Type} (st : MapperState) (wrap : α → β) :
    Session.Result α → Outcome β × MapperState
  | (outcome, session, shared) => (outcome.map wrap, { st with session, shared })

/-- Goes on once a call has returned, with an error as well. A fault takes the rest with it. -/
def resume {α β : Type} :
    Outcome α × MapperState → (Except Error α → MapperState → Outcome β × MapperState) →
      Outcome β × MapperState
  | (.ok a, st), next => next (.ok a) st
  | (.error (.error e), st), next => next (.error e) st
  | (.error fault, st), _ => (.error fault, st)

/-- Does what a script says. Its calls of the mapper are dispatched as given. -/
def carryOut (catalog : Catalog)
    (dispatch : String → List Arg → MapperState → Outcome MapperResult × MapperState) :
    Script → MapperState → Outcome MapperResult × MapperState
  | .answer result, st => (Outcome.ofExcept result, st)
  | .invoke method args next, st =>
    resume (dispatch method args st) fun answer st => carryOut catalog dispatch (next answer) st
  | .call call next, st =>
    resume (st.ofSession id (st.session.perform catalog st.shared call)) fun answer st =>
      carryOut catalog dispatch (next answer) st
  | .observe next, st => carryOut catalog dispatch (next catalog st.shared.journal) st

/-- Dispatches a call. A default body takes room inside of the one that calls it. -/
def invoke (catalog : Catalog) (proxy : MapperProxy) :
    (room : Nat) → String → List Arg → MapperState → Outcome MapperResult × MapperState
  | room, method, args, st =>
    match proxy.objectMethod? st.factory.interface.name method args with
    | some result => (Outcome.ofExcept result, st)
    | none =>
      match st.factory.invoker catalog method with
      | (.error e, factory) => (.error (.error (.binding e)), { st with factory })
      | (.ok (.plain m), factory) =>
        ofSession { st with factory } id (m.execute catalog args st.session st.shared)
      | (.ok (.default body), factory) =>
        match room with
        | 0 => (.error .tooDeep, { st with factory })
        | room + 1 =>
          carryOut catalog (invoke catalog proxy room) (body.script factory.interface.name args)
            { st with factory }

end MapperState

end DataMapper
