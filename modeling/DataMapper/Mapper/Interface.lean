import DataMapper.Mapper.Result
/-!
# Mapper interfaces

Descriptions of mappers as data: the signatures of their methods and what carries each method out.
A well-formed interface has names that tell its methods apart, and parameters that fit together.
-/

namespace DataMapper

open Text

/-- An argument of a mapper call. -/
inductive Arg where
  | value (v : Value)
  | bounds (b : RowBounds)
  | handler (h : Handler)
  deriving DecidableEq

/-- What a declared parameter accepts. Row bounds and handlers are special: they have no name. -/
inductive ParamKind where
  | value
  | rowBounds
  | resultHandler
  deriving DecidableEq, Repr

namespace ParamKind

def isSpecial (k : ParamKind) : Bool :=
  k != value

def describe : ParamKind → String
  | value => "a value"
  | rowBounds => "row bounds"
  | resultHandler => "a result handler"

def name : ParamKind → String
  | value => "Value"
  | rowBounds => "RowBounds"
  | resultHandler => "ResultHandler"

end ParamKind

namespace Arg

def kind : Arg → ParamKind
  | value _ => .value
  | bounds _ => .rowBounds
  | handler _ => .resultHandler

def value? : Arg → Option Value
  | value v => some v
  | _ => none

/-- The argument of a call that begins anew. -/
def renew (j : Journal) : Arg → Arg
  | handler h => handler (h.renew j)
  | arg => arg

def inspect : Arg → String
  | value v => inspectVariant "Value" [v.inspect]
  | bounds b => inspectVariant "Bounds" [b.inspect]
  | handler _ => "Handler(..)"

end Arg

/-- A declared parameter: its explicit name, and its name in the declaration where that is known. -/
structure ParamSpec where
  kind : ParamKind := .value
  explicitName : Option String := none
  actualName : Option String := none
  deriving DecidableEq, Repr

namespace ParamSpec

def value (actualName : String) : ParamSpec :=
  { actualName := some actualName }

def unnamed : ParamSpec := {}

def named (name : String) : ParamSpec :=
  { explicitName := some name }

def rowBounds : ParamSpec :=
  { kind := .rowBounds }

def resultHandler : ParamSpec :=
  { kind := .resultHandler }

def inspect (p : ParamSpec) : String :=
  inspectRecord "ParamSpec"
    [("kind", p.kind.name),
      ("explicit_name", inspectOption (p.explicitName.map quoted)),
      ("actual_name", inspectOption (p.actualName.map quoted))]

end ParamSpec

/-- The declared category of a method's result. -/
inductive ReturnKind where
  | void
  | affectedRows
  | flag
  | one
  | many
  | map (key : String)
  | cursor
  deriving DecidableEq, Repr

def ReturnKind.inspect : ReturnKind → String
  | void => "Void"
  | affectedRows => "AffectedRows"
  | flag => "Flag"
  | one => "One"
  | many => "Many"
  | map key => inspectRecord "Map" [("key", quoted key)]
  | cursor => "Cursor"

/-- What the body of a method does, one thing at a time: it makes a call of the same mapper or of
its session, or looks at the configuration and at what handlers have received. Each answer, an error
as well, tells how it goes on. -/
inductive Script where
  | answer (result : Except Error MapperResult)
  | invoke (method : String) (args : List Arg) (next : Except Error MapperResult → Script)
  | call (call : SessionCall) (next : Except Error SessionReply → Script)
  | observe (next : Catalog → Journal → Script)

/-- Fails with the given errors only, or passes on an error that it was answered with. -/
def Script.FailsBy (known : Error → Prop) : Script → Prop
  | answer result => ∀ e, result = .error e → known e
  | invoke _ _ next => ∀ answer, (next answer).FailsBy fun e => known e ∨ answer = .error e
  | call _ next => ∀ answer, (next answer).FailsBy fun e => known e ∨ answer = .error e
  | observe next => ∀ catalog journal, (next catalog journal).FailsBy known

theorem Script.FailsBy.imp {script : Script} {known known' : Error → Prop}
    (h : script.FailsBy known) (himp : ∀ e, known e → known' e) : script.FailsBy known' := by
  induction script generalizing known known' with
  | answer result => exact fun e he => himp e (h e he)
  | invoke method args next ih =>
    exact fun given => ih given (h given) fun e he => he.imp_left (himp e)
  | call call next ih =>
    exact fun given => ih given (h given) fun e he => he.imp_left (himp e)
  | observe next ih =>
    exact fun catalog journal => ih catalog journal (h catalog journal) himp

/-- The errors that a mapper may come up with itself, which leaves out those that only regions
report. -/
def Error.ofMapper : Error → Bool
  | .cache _ => false
  | _ => true

/-- The body that an interface gives a method itself: what it does for the arguments, where it is
told the name of the interface. It may fail by itself, and may pass on any error that it meets. -/
structure DefaultBody where
  script : (interface : String) → List Arg → Script
  failsBy : ∀ interface args, (script interface args).FailsBy fun e => e.ofMapper

namespace DefaultBody

/-- Hands its arguments to a method of the mapper. -/
def call (method : String) : DefaultBody where
  script _ args := .invoke method args .answer
  failsBy _ _ _ _ h := .inr h

/-- Calls a method of the mapper with the same arguments every time. -/
def callWith (method : String) (args : List Arg) : DefaultBody where
  script _ _ := .observe fun _ journal => .invoke method (args.map (Arg.renew journal)) .answer
  failsBy _ _ _ _ _ _ h := .inr h

/-- Hands its arguments to a method that answers with a row, and puts a value where there is
none. -/
def orElse (method : String) (fallback : Value) : DefaultBody where
  script _ args :=
    .invoke method args fun answer => .answer (answer.bind (MapperResult.rowOr fallback))
  failsBy _ _ answer e h := by
    cases answer with
    | error e' => exact .inr h
    | ok r =>
      cases r with
      | one row => cases h
      | _ =>
        cases h
        exact .inl rfl

def interfaceName : DefaultBody where
  script interface _ := .answer (.ok (.one (some (.text interface))))
  failsBy _ _ _ h := nomatch h

/-- Makes one call of the session. -/
def session (call : SessionCall) : DefaultBody where
  script _ _ := .call call fun answer => .answer (answer.map .ofReply)
  failsBy _ _ answer e h := by
    cases answer with
    | error e' =>
      cases h
      exact .inr rfl
    | ok reply => cases h

def selectList (id : String) (parameter : Value) : DefaultBody :=
  session (.selectList id parameter .all)

def update (id : String) (parameter : Value) : DefaultBody :=
  session (.update id parameter)

def fail (message : String) : DefaultBody where
  script _ _ := .answer (.error (.source message))
  failsBy _ _ e h := by
    cases h
    rfl

end DefaultBody

/-- How a method is carried out. -/
inductive MethodBody where
  /-- Runs a statement. Without an id it is the one named after interface and method. -/
  | statement (id : Option String)
  | flush
  | default (body : DefaultBody)

def MethodBody.inspect : MethodBody → String
  | statement id => inspectRecord "Statement" [("statement_id", inspectOption (id.map quoted))]
  | flush => "Flush"
  | default _ => "Default(..)"

structure MethodSignature where
  name : String
  params : List ParamSpec := []
  returns : ReturnKind
  body : MethodBody := .statement none

namespace MethodSignature

def isDefault (m : MethodSignature) : Bool :=
  match m.body with
  | .default _ => true
  | _ => false

/-- The position of the first parameter of a kind. -/
def indexOf? (m : MethodSignature) (kind : ParamKind) : Option Nat :=
  m.params.findIdx? fun p => p.kind == kind

def rowBoundsIndex? (m : MethodSignature) : Option Nat :=
  m.indexOf? .rowBounds

def resultHandlerIndex? (m : MethodSignature) : Option Nat :=
  m.indexOf? .resultHandler

def countOf (m : MethodSignature) (kind : ParamKind) : Nat :=
  m.params.countP fun p => p.kind == kind

def inspect (m : MethodSignature) : String :=
  inspectRecord "MethodSignature"
    [("name", quoted m.name), ("params", inspectList (m.params.map ParamSpec.inspect)),
      ("returns", m.returns.inspect), ("body", m.body.inspect)]

end MethodSignature

/-- A reference to a type: which type it is, and its name. Distinct types may have one name. -/
structure TypeRef where
  id : Nat
  name : String
  deriving DecidableEq, Repr

structure MapperInterface where
  name : String
  methods : List MethodSignature := []

/-- The methods that every mapper answers itself. -/
def objectMethods : List String :=
  ["to_string", "hash_code", "equals"]

namespace MapperInterface

def findMethod? (i : MapperInterface) (name : String) : Option MethodSignature :=
  i.methods.find? fun m => m.name == name

/-- What is wrong with a method, given the names of the methods before it. -/
def methodFault? (earlier : List String) (m : MethodSignature) : Option String :=
  if objectMethods.contains m.name then some "name is reserved for the proxy"
  else if earlier.contains m.name then some "declared more than once"
  else if 1 < m.countOf .rowBounds then some "more than one row bounds parameter"
  else if 1 < m.countOf .resultHandler then some "more than one result handler parameter"
  else if m.resultHandlerIndex?.isSome && m.returns != .void then
    some "methods taking a result handler must return nothing"
  else none

def validateMethods (interface : String) :
    List String → List MethodSignature → Except BindingError Unit
  | _, [] => .ok ()
  | earlier, m :: rest =>
    match methodFault? earlier m with
    | some reason => .error (.invalidSignature interface m.name reason)
    | none => validateMethods interface (m.name :: earlier) rest

/-- Checks that the interface is well formed. -/
def validate (i : MapperInterface) : Except BindingError Unit :=
  if i.name = "" then .error (.invalidSignature i.name "" "interface name is empty")
  else validateMethods i.name [] i.methods

def inspect (i : MapperInterface) : String :=
  inspectRecord "MapperInterface"
    [("name", quoted i.name), ("methods", inspectList (i.methods.map MethodSignature.inspect))]

end MapperInterface

end DataMapper
