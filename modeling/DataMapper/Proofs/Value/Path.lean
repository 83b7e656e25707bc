import DataMapper.Value.Path
/-!
# Changes off a path

A path into a value does not notice changes at the end of another path, as long as neither path runs
along the other one. Such a change may replace, add or remove an entry of a map.
-/

namespace DataMapper.Value

/-- The values are the same but for what is at the end of a path. -/
inductive SameBut : List String → Value → Value → Prop where
  | here (v v' : Value) : SameBut [] v v'
  | same (path : List String) (v : Value) : SameBut path v v
  | entry {name : String} {entries entries' : List (String × Value)}
      (others : ∀ other, other ≠ name → entries.lookup other = entries'.lookup other) :
      SameBut [name] (map entries) (map entries')
  | inside {name : String} {rest : List String} {v v' : Value}
      {entries entries' : List (String × Value)}
      (others : ∀ other, other ≠ name → entries.lookup other = entries'.lookup other)
      (old : entries.lookup name = some v) (new : entries'.lookup name = some v')
      (within : SameBut rest v v') : SameBut (name :: rest) (map entries) (map entries')

/-- Neither path is the beginning of the other one. -/
def Apart (path path' : List String) : Prop :=
  ¬ path <+: path' ∧ ¬ path' <+: path

theorem Apart.exists_eq_cons {path path' : List String} (h : Apart path path') :
    ∃ name rest, path = name :: rest := by
  cases path with
  | nil => exact absurd List.nil_prefix h.1
  | cons name rest => exact ⟨name, rest, rfl⟩

theorem Apart.tail {name : String} {path path' : List String}
    (h : Apart (name :: path) (name :: path')) : Apart path path' := by
  obtain ⟨h₁, h₂⟩ := h
  rw [List.cons_prefix_cons] at h₁ h₂
  exact ⟨fun hp => h₁ ⟨rfl, hp⟩, fun hp => h₂ ⟨rfl, hp⟩⟩

theorem follow_map_eq_ok_iff {name : String} {rest : List String}
    {entries : List (String × Value)} {x : Value} :
    (map entries).follow (name :: rest) = .ok x ↔
      ∃ v, entries.lookup name = some v ∧ v.follow rest = .ok x := by
  rw [follow]
  cases entries.lookup name with
  | none => simp
  | some v => simp

theorem follow_map_of_lookup_eq {name : String} {rest : List String}
    {entries entries' : List (String × Value)} (h : entries.lookup name = entries'.lookup name)
    {x : Value} (hx : (map entries).follow (name :: rest) = .ok x) :
    (map entries').follow (name :: rest) = .ok x := by
  rw [follow_map_eq_ok_iff] at hx ⊢
  rwa [← h]

/-- What a path leads to in a value, it leads to in any other one that differs off the path. -/
theorem SameBut.follow {changed : List String} {v v' : Value} (h : SameBut changed v v')
    {path : List String} (hapart : Apart path changed) {x : Value}
    (hx : v.follow path = .ok x) : v'.follow path = .ok x := by
  induction h generalizing path with
  | here v v' => exact absurd List.nil_prefix hapart.2
  | same changed v => exact hx
  | @entry last entries entries' others =>
    obtain ⟨name, rest, rfl⟩ := hapart.exists_eq_cons
    by_cases hname : name = last
    · subst hname
      exact absurd List.nil_prefix hapart.tail.2
    · exact follow_map_of_lookup_eq (others name hname) hx
  | @inside first rest' v v' entries entries' others old new within ih =>
    obtain ⟨name, rest, rfl⟩ := hapart.exists_eq_cons
    by_cases hname : name = first
    · subst hname
      obtain ⟨inner, hinner, hrest⟩ := follow_map_eq_ok_iff.1 hx
      obtain rfl : v = inner := Option.some.inj (old.symm.trans hinner)
      exact follow_map_eq_ok_iff.2 ⟨v', new, ih hapart.tail hrest⟩
    · exact follow_map_of_lookup_eq (others name hname) hx

end DataMapper.Value
