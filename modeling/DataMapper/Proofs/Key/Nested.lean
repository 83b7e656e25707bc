import DataMapper.Proofs.Key.Equality
import DataMapper.Proofs.Value.Descent
/-!
# Keys of nested properties

A statement whose properties all are those of an inner value of its parameter has the same keys as
one that is given the inner value itself, and no key if the inner value cannot be resolved.
-/

namespace DataMapper

/-- The mapping of the property inside of the value at a path. -/
def ParameterMapping.within (m : ParameterMapping) (path : String) : ParameterMapping :=
  { m with property := path ++ "." ++ m.property }

/-- The statement with all its properties inside of the value at a path. -/
def MappedStatement.within (s : MappedStatement) (path : String) : MappedStatement :=
  { s with parameterMappings := s.parameterMappings.map fun m => m.within path }

namespace CacheKey

variable {outer inner : Value} {path : String} {e : BindingError}

theorem boundValues_within (h : outer.resolve path = .ok inner)
    (mappings : List ParameterMapping) :
    boundValues outer (mappings.map fun m => m.within path) = boundValues inner mappings := by
  induction mappings with
  | nil => rfl
  | cons m rest ih =>
    have hproperty : outer.resolve (m.within path).property = inner.resolve m.property := by
      rw [ParameterMapping.within, Value.resolve_append_dot, h]
      rfl
    have hmode : (m.within path).mode = m.mode := rfl
    rw [List.map_cons, boundValues, boundValues, hmode, hproperty, ih]

theorem boundValues_within_eq_error (h : outer.resolve path = .error e)
    {mappings : List ParameterMapping} (hinput : ∃ m ∈ mappings, m.mode ≠ .output) :
    boundValues outer (mappings.map fun m => m.within path) = .error e := by
  induction mappings with
  | nil =>
    obtain ⟨m, hm, _⟩ := hinput
    exact absurd hm List.not_mem_nil
  | cons m rest ih =>
    have hmode : (m.within path).mode = m.mode := rfl
    rw [List.map_cons, boundValues, hmode]
    by_cases houtput : m.mode = .output
    · obtain ⟨m', hm', hinput'⟩ := hinput
      rcases List.mem_cons.1 hm' with rfl | hm'
      · exact absurd houtput hinput'
      · rw [if_pos houtput]
        exact ih ⟨m', hm', hinput'⟩
    · have hproperty : outer.resolve (m.within path).property = .error e := by
        rw [ParameterMapping.within, Value.resolve_append_dot, h]
        rfl
      rw [if_neg houtput, hproperty]

end CacheKey

/-- The key of an execution whose inputs are inside of the value at a path is the key of the
execution on that value. If the path does not resolve, there is no key, with the same error; only an
execution without inputs has its key all the same. -/
theorem Execution.key_within (x : Execution) (path : String)
    (hinput : x.statement.inputMappings ≠ []) :
    Execution.key { x with statement := x.statement.within path } =
      (x.parameter.resolve path).bind fun inner => Execution.key { x with parameter := inner } := by
  unfold Execution.key CacheKey.forStatement
  cases h : x.parameter.resolve path with
  | error e =>
    have hmapping : ∃ m ∈ x.statement.parameterMappings, m.mode ≠ .output := by
      obtain ⟨m, hm⟩ := List.exists_mem_of_ne_nil _ hinput
      obtain ⟨hmem, hmode⟩ := List.mem_filter.1 hm
      exact ⟨m, hmem, by simpa using hmode⟩
    rw [MappedStatement.within, CacheKey.boundValues_within_eq_error h hmapping]
    rfl
  | ok inner =>
    rw [MappedStatement.within, CacheKey.boundValues_within h]
    rfl

end DataMapper
