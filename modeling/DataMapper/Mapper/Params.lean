import DataMapper.Mapper.Interface
/-!
# Parameter names

The names under which the arguments of a method reach its statement. Special parameters have none,
and do not count in the numbering of the others.
-/

namespace DataMapper

open Text

/-- The names of a method's value parameters, each with its position among all arguments. -/
structure ParamNames where
  method : String
  names : List (Nat × String)
  hasExplicitName : Bool
  deriving DecidableEq, Repr

namespace ParamNames

/-- The name of a value parameter: the explicit one, else that of the declaration if it is known
and wanted, else the number of value parameters before it. -/
def nameOf (useActual : Bool) (ordinal : Nat) (p : ParamSpec) : String :=
  match p.explicitName, p.actualName with
  | some name, _ => name
  | none, some name => if useActual then name else toString ordinal
  | none, none => toString ordinal

/-- Names the value parameters of a list that starts at a given position and ordinal. -/
def assign (useActual : Bool) : (position ordinal : Nat) → List ParamSpec → List (Nat × String)
  | _, _, [] => []
  | position, ordinal, p :: rest =>
    if p.kind.isSpecial then assign useActual (position + 1) ordinal rest
    else
      (position, nameOf useActual ordinal p) :: assign useActual (position + 1) (ordinal + 1) rest

def ofSignature (m : MethodSignature) (useActual : Bool) : ParamNames :=
  { method := m.name
    names := assign useActual 0 0 m.params
    hasExplicitName := m.params.any fun p => !p.kind.isSpecial && p.explicitName.isSome }

/-- The names in the order of declaration. -/
def toList (n : ParamNames) : List String :=
  n.names.map Prod.snd

def valueAt (n : ParamNames) (args : List Arg) (position : Nat) : Except BindingError Value :=
  match args[position]?.bind Arg.value? with
  | some v => .ok v
  | none => .error (.argumentKind n.method position "a value")

/-- The alias of the value parameter at an ordinal. -/
def aliasOf (ordinal : Nat) : String :=
  "param" ++ toString (ordinal + 1)

/-- Enters arguments under their names, and under their aliases where those are nobody's name. -/
def bindFrom (n : ParamNames) (args : List Arg) :
    (ordinal : Nat) → List (Nat × String) → List (String × Value) →
      Except BindingError (List (String × Value))
  | _, [], entries => .ok entries
  | ordinal, (position, name) :: rest, entries =>
    match n.valueAt args position with
    | .error e => .error e
    | .ok v =>
      let entries := Named.insert name v entries
      let entries :=
        if n.toList.contains (aliasOf ordinal) then entries
        else Named.insert (aliasOf ordinal) v entries
      bindFrom n args (ordinal + 1) rest entries

/-- The parameter that arguments are bound to: null for none, the argument itself for a single one
without an explicit name, and otherwise a map. -/
def bind (n : ParamNames) (args : List Arg) : Except BindingError Value :=
  match n.names, n.hasExplicitName with
  | [], _ => .ok .null
  | [(position, _)], false => n.valueAt args position
  | names, _ => (n.bindFrom args 0 names []).map Value.map

def inspect (n : ParamNames) : String :=
  let pairs := n.names.map fun p => "(" ++ toString p.1 ++ ", " ++ quoted p.2 ++ ")"
  inspectRecord "ParamNameResolver"
    [("method", quoted n.method), ("names", inspectList pairs),
      ("has_explicit_name", inspectBool n.hasExplicitName)]

end ParamNames

end DataMapper
