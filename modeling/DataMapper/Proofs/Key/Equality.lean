import DataMapper.Proofs.Key
import DataMapper.Proofs.Value.Path
/-!
# Equality of keys

Two executions have the same key if and only if they have the same inputs: the statement, the
environment, the values of the parameters that are not output only, and the bounds as far as a key
can tell them. The fingerprints make the comparison of keys faster and never change its answer.
-/

namespace DataMapper

/-- The mappings whose values enter a key. -/
def MappedStatement.inputMappings (s : MappedStatement) : List ParameterMapping :=
  s.parameterMappings.filter fun m => m.mode ≠ .output

/-- One execution of a statement in an environment. -/
structure Execution where
  statement : MappedStatement
  parameter : Value
  bounds : RowBounds
  environment : String

namespace Execution

def key (x : Execution) : Except BindingError CacheKey :=
  CacheKey.forStatement x.statement x.parameter x.bounds x.environment

/-- What the input mappings resolve to, one by one. -/
def inputs (x : Execution) : List (Except BindingError Value) :=
  x.statement.inputMappings.map fun m => x.parameter.resolve m.property

/-- The executions differ in nothing that is meant to tell keys apart. -/
structure SameInputs (x x' : Execution) : Prop where
  statement : x.statement.id = x'.statement.id
  environment : x.environment = x'.environment
  inputs : x.inputs = x'.inputs
  offset : min x.bounds.offset.toNat CacheKey.maxBound =
    min x'.bounds.offset.toNat CacheKey.maxBound
  limit : min x.bounds.limit.toNat CacheKey.maxBound =
    min x'.bounds.limit.toNat CacheKey.maxBound

end Execution

namespace CacheKey

/-! ## Keys from appended components -/

/-- A call that appends to a key. -/
inductive Append where
  | one (component : Value)
  | all (components : List Value)

def Append.components : Append → List Value
  | one c => [c]
  | all cs => cs

def append (k : CacheKey) : Append → CacheKey
  | .one c => k.update c
  | .all cs => k.updateAll cs

/-- The key that a sequence of calls makes of the empty one. -/
def build (appends : List Append) : CacheKey :=
  appends.foldl append empty

theorem components_append (k : CacheKey) (a : Append) :
    (k.append a).components = k.components ++ a.components := by
  cases a with
  | one c => exact k.components_update c
  | all cs => exact k.components_updateAll cs

theorem components_build (appends : List Append) :
    (build appends).components = appends.flatMap Append.components := by
  suffices h : ∀ k : CacheKey, (appends.foldl append k).components =
      k.components ++ appends.flatMap Append.components from h empty
  induction appends with
  | nil => simp
  | cons a rest ih =>
    intro k
    rw [List.foldl_cons, ih, components_append, List.flatMap_cons, List.append_assoc]

/-- Whatever the fingerprints say, keys are compared by their components. -/
theorem agrees_eq_decide (k k' : CacheKey) :
    k.agrees k' = decide (k.components = k'.components) := by
  rw [Bool.eq_iff_iff, agrees_iff, decide_eq_true_iff]
  exact ⟨congrArg components, ext⟩

/-! ## Keys of executions -/

theorem boundValue_eq_iff {bound bound' : UInt64} :
    boundValue bound = boundValue bound' ↔
      min bound.toNat maxBound = min bound'.toNat maxBound := by
  refine ⟨min_eq_of_boundValue_eq, fun h => ?_⟩
  obtain ⟨n, hn, hmin⟩ := toNat_boundValue bound
  obtain ⟨n', hn', hmin'⟩ := toNat_boundValue bound'
  have hbits : n.toUInt64 = n'.toUInt64 := UInt64.toNat_inj.1 (by rw [hmin, hmin', h])
  rw [hn, hn', ← Int64.toInt64_toUInt64 n, hbits, Int64.toInt64_toUInt64]

/-- Parameters that are output only do not show, not even in errors. -/
theorem boundValues_filter (parameter : Value) (mappings : List ParameterMapping) :
    boundValues parameter (mappings.filter fun m => m.mode ≠ .output) =
      boundValues parameter mappings := by
  induction mappings with
  | nil => rfl
  | cons m rest ih =>
    by_cases hmode : m.mode = .output
    · rw [List.filter_cons_of_neg (by simp [hmode]), ih, boundValues, if_pos hmode]
    · rw [List.filter_cons_of_pos (by simp [hmode]), boundValues, boundValues, ih]

theorem boundValues_cons_eq_ok_iff {parameter : Value} {m : ParameterMapping}
    (hmode : m.mode ≠ .output) {rest : List ParameterMapping} {values : List Value} :
    boundValues parameter (m :: rest) = .ok values ↔
      ∃ v vs, parameter.resolve m.property = .ok v ∧ boundValues parameter rest = .ok vs ∧
        v :: vs = values := by
  rw [boundValues, if_neg hmode]
  cases parameter.resolve m.property with
  | error e => simp
  | ok v =>
    cases boundValues parameter rest with
    | error e => simp
    | ok vs => simp

/-- The values for a key are those that the input mappings resolve to, if all of them do. -/
theorem boundValues_eq_ok_iff {parameter : Value} {mappings : List ParameterMapping}
    {values : List Value} :
    boundValues parameter mappings = .ok values ↔
      (mappings.filter fun m => m.mode ≠ .output).map (fun m => parameter.resolve m.property) =
        values.map .ok := by
  induction mappings generalizing values with
  | nil => simp [boundValues, eq_comm]
  | cons m rest ih =>
    by_cases hmode : m.mode = .output
    · rw [boundValues, if_pos hmode, List.filter_cons_of_neg (by simp [hmode]), ih]
    · rw [boundValues_cons_eq_ok_iff hmode, List.filter_cons_of_pos (by simp [hmode]),
        List.map_cons, eq_comm, List.map_eq_cons_iff]
      constructor
      · rintro ⟨v, vs, hv, hvs, rfl⟩
        exact ⟨v, vs, rfl, hv.symm, (ih.1 hvs).symm⟩
      · rintro ⟨v, vs, rfl, hv, hvs⟩
        exact ⟨v, vs, hv.symm, ih.2 hvs.symm, rfl⟩

end CacheKey

namespace Execution

open CacheKey

variable {x x' : Execution} {k k' : CacheKey}

/-- An execution has a key if all its inputs resolve. -/
theorem key_eq_ok_iff :
    x.key = .ok k ↔ ∃ values, x.inputs = values.map .ok ∧
      k = ofComponents (.text x.statement.id :: values ++
        [boundValue x.bounds.offset, boundValue x.bounds.limit, .text x.environment]) := by
  have hvalues : ∀ values, boundValues x.parameter x.statement.parameterMappings = .ok values ↔
      x.inputs = values.map .ok := fun values => boundValues_eq_ok_iff
  unfold key forStatement
  cases hbound : boundValues x.parameter x.statement.parameterMappings with
  | error e =>
    simp only [reduceCtorEq, false_iff, not_exists, not_and]
    intro values hinputs
    rw [(hvalues values).2 hinputs] at hbound
    cases hbound
  | ok values =>
    constructor
    · intro h
      exact ⟨values, (hvalues values).1 hbound, (Except.ok.inj h).symm⟩
    · rintro ⟨values', hinputs, rfl⟩
      rw [(hvalues values').2 hinputs] at hbound
      cases hbound
      rfl

theorem sameInputs_of_key_eq (h : x.key = .ok k) (h' : x'.key = .ok k) : x.SameInputs x' := by
  obtain ⟨values, hinputs, rfl⟩ := key_eq_ok_iff.1 h
  obtain ⟨values', hinputs', hkey⟩ := key_eq_ok_iff.1 h'
  have hcomponents := congrArg components hkey
  rw [components_ofComponents, components_ofComponents] at hcomponents
  obtain ⟨hfront, hback⟩ := List.append_inj' hcomponents rfl
  simp only [List.cons.injEq, Value.text.injEq, and_true] at hfront hback
  obtain ⟨hid, rfl⟩ := hfront
  obtain ⟨hoffset, hlimit, henvironment⟩ := hback
  exact ⟨hid, henvironment, hinputs.trans hinputs'.symm, boundValue_eq_iff.1 hoffset,
    boundValue_eq_iff.1 hlimit⟩

theorem key_eq_of_sameInputs (hsame : x.SameInputs x') (h : x.key = .ok k) : x'.key = .ok k := by
  obtain ⟨hstatement, henvironment, hinputs, hoffset, hlimit⟩ := hsame
  rw [key_eq_ok_iff] at h ⊢
  rwa [← hstatement, ← henvironment, ← hinputs, ← boundValue_eq_iff.2 hoffset,
    ← boundValue_eq_iff.2 hlimit]

theorem agrees_iff_sameInputs (h : x.key = .ok k) (h' : x'.key = .ok k') :
    k.agrees k' = true ↔ x.SameInputs x' := by
  rw [agrees_iff]
  constructor
  · rintro rfl
    exact sameInputs_of_key_eq h h'
  · intro hsame
    have hkey := key_eq_of_sameInputs hsame h
    rw [h'] at hkey
    exact (Except.ok.inj hkey).symm

/-- Of a statement nothing enters the key but the id and the input mappings. -/
theorem key_of_inputMappings_eq {statement : MappedStatement}
    (hid : statement.id = x.statement.id)
    (hmappings : statement.inputMappings = x.statement.inputMappings) :
    Execution.key { x with statement } = x.key := by
  have hvalues : boundValues x.parameter statement.parameterMappings =
      boundValues x.parameter x.statement.parameterMappings := by
    rw [← boundValues_filter, ← boundValues_filter x.parameter x.statement.parameterMappings]
    exact congrArg (boundValues x.parameter) hmappings
  unfold key forStatement
  rw [hvalues, hid]

/-- The key stays when the parameter changes off the paths of the input mappings. -/
theorem key_of_sameBut {changed : List String} {parameter : Value}
    (hsame : Value.SameBut changed x.parameter parameter)
    (hapart : ∀ m ∈ x.statement.inputMappings, Value.Apart (pathSegments m.property) changed)
    (h : x.key = .ok k) : Execution.key { x with parameter } = .ok k := by
  obtain ⟨values, hinputs, _⟩ := key_eq_ok_iff.1 h
  have hstays : Execution.inputs { x with parameter } = x.inputs := by
    apply List.map_congr_left
    intro m hm
    have hresolved : x.parameter.resolve m.property ∈ values.map Except.ok :=
      hinputs ▸ List.mem_map_of_mem hm
    obtain ⟨v, _, hv⟩ := List.mem_map.1 hresolved
    rw [← hv]
    exact hsame.follow (hapart m hm) hv.symm
  exact key_eq_of_sameInputs (x := x) ⟨rfl, rfl, hstays.symm, rfl, rfl⟩ h

end Execution

/-! ## What keys tell -/

/-- The keys of two executions are the same if and only if the statements have one id, the
environments are the same, the input mappings resolve to the same values, and the bounds are the
same or beyond the greatest that a key can tell. The fingerprints never change the answer of the
comparison of components, however a key was put together, and keys that are the same have the same
hash code. Output mappings and changes off the paths of the input mappings leave a key as it is. -/
theorem keys_tell_inputs_apart {x x' : Execution} {k k' : CacheKey} (h : x.key = .ok k)
    (h' : x'.key = .ok k') :
    (k.agrees k' = true ↔ x.SameInputs x') ∧
      (∀ appends appends',
        (CacheKey.build appends).agrees (CacheKey.build appends') =
          decide (appends.flatMap CacheKey.Append.components =
            appends'.flatMap CacheKey.Append.components)) ∧
      (∀ a b : CacheKey, a.agrees b = true → a.hashcode = b.hashcode) ∧
      (∀ statement : MappedStatement, statement.id = x.statement.id →
        statement.inputMappings = x.statement.inputMappings →
        Execution.key { x with statement } = .ok k) ∧
      ∀ changed parameter, Value.SameBut changed x.parameter parameter →
        (∀ m ∈ x.statement.inputMappings, Value.Apart (pathSegments m.property) changed) →
        Execution.key { x with parameter } = .ok k := by
  refine ⟨Execution.agrees_iff_sameInputs h h', ?_, ?_, ?_, ?_⟩
  · intro appends appends'
    rw [CacheKey.agrees_eq_decide, CacheKey.components_build, CacheKey.components_build]
  · intro a b hagrees
    exact congrArg CacheKey.hashcode ((CacheKey.agrees_iff a b).1 hagrees)
  · intro statement hid hmappings
    rw [Execution.key_of_inputMappings_eq hid hmappings, h]
  · intro changed parameter hsame hapart
    exact Execution.key_of_sameBut hsame hapart h

/-- A callable whose only input is a name inside of the parameter. -/
def findByOwner : MappedStatement where
  id := "find"
  commandType := .select
  statementType := .callable
  parameterMappings := [{ property := "owner.name" }, { property := "total", mode := .output }]

/-- Two limits beyond the greatest one that a key can tell give the same key, and so does a
parameter with one more entry beside the mapped one. A limit within gives another key. -/
theorem unlimited_selects_have_one_key :
    let owner := Value.map [("name", .text "ada")]
    let owner' := Value.map [("city", .text "london"), ("name", .text "ada")]
    let x : Execution := ⟨findByOwner, .map [("owner", owner)], .all, "dev"⟩
    let far : Execution := { x with bounds := ⟨0, 9223372036854775808⟩ }
    let near : Execution := { x with bounds := ⟨0, 10⟩ }
    let k := CacheKey.ofComponents
      [.text "find", .text "ada", .int 0, .int Int64.maxValue, .text "dev"]
    let k' := CacheKey.ofComponents [.text "find", .text "ada", .int 0, .int 10, .text "dev"]
    x.key = .ok k ∧ far.key = .ok k ∧ near.key = .ok k' ∧ k.agrees k = true ∧
      k.agrees k' = false ∧ Execution.key { x with parameter := .map [("owner", owner')] } = .ok k ∧
      Execution.key { x with statement := { findByOwner with
        parameterMappings := [{ property := "owner.name" }] } } = .ok k := by
  intro owner owner' x far near k k'
  have hx : x.key = .ok k := rfl
  have hfar : far.key = .ok k := rfl
  have hnear : near.key = .ok k' := rfl
  obtain ⟨hagrees, -, -, hstatement, hparameter⟩ := keys_tell_inputs_apart hx hfar
  have hsame : x.SameInputs far := ⟨rfl, rfl, rfl, rfl, by decide⟩
  have hother : ¬ x.SameInputs near := fun hsame => absurd hsame.limit (by decide)
  have hdiffer : ¬ k.agrees k' = true := fun h => hother ((keys_tell_inputs_apart hx hnear).1.1 h)
  have hcity : Value.SameBut ["owner", "city"] x.parameter (.map [("owner", owner')]) := by
    refine .inside ?_ rfl rfl (.entry ?_)
    · intro other hother
      simp [lookup_cons_ite, hother]
    · intro other hother
      simp [lookup_cons_ite, hother]
  refine ⟨hx, hfar, hnear, hagrees.2 hsame, by simpa using hdiffer, hparameter _ _ hcity ?_,
    hstatement _ rfl rfl⟩
  intro m hm
  obtain rfl : m = { property := "owner.name" } := by simpa [x, findByOwner,
    MappedStatement.inputMappings] using hm
  exact ⟨by decide, by decide⟩

end DataMapper
