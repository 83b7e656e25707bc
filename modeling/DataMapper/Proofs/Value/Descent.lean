import DataMapper.Proofs.Value.Path
/-!
# Joined paths

A path that is made of two, with a dot between them, leads along the first one and from its end along
the second one. It ends where the two end one after the other, and a map that lacks a segment refuses
it as that map refuses the one path or the other.
-/

namespace DataMapper

/-! ## Segments -/

/-- The path is made of the segments, with a dot between each two of them and none inside of one. -/
structure MadeOf (path : String) (segments : List String) : Prop where
  nonempty : segments ≠ []
  dotless : ∀ segment ∈ segments, '.' ∉ segment.toList
  joined : ".".intercalate segments = path

theorem splitDots_eq_splitOn (s : List Char) : splitDots s = s.splitOn '.' := by
  induction s with
  | nil => rfl
  | cons c rest ih =>
    rw [splitDots, List.splitOn_cons_eq_if_modifyHead, ih]
    by_cases h : c = '.'
    · rw [if_pos h, if_pos (beq_iff_eq.2 h)]
    · rw [if_neg h, if_neg (fun hbeq => h (beq_iff_eq.1 hbeq))]
      cases hparts : rest.splitOn '.' with
      | nil => exact absurd hparts (List.splitOn_ne_nil '.' rest)
      | cons part parts => rfl

theorem not_mem_of_mem_splitDots {s part : List Char} (h : part ∈ splitDots s) : '.' ∉ part := by
  induction s generalizing part with
  | nil =>
    obtain rfl : part = [] := by simpa [splitDots] using h
    exact List.not_mem_nil
  | cons c rest ih =>
    rw [splitDots] at h
    split at h
    · rcases List.mem_cons.1 h with rfl | h
      · exact List.not_mem_nil
      · exact ih h
    · rename_i hc
      cases hparts : splitDots rest with
      | nil => exact absurd hparts (splitDots_ne_nil rest)
      | cons first parts =>
        rw [hparts] at h ih
        rcases List.mem_cons.1 h with rfl | h
        · intro hdot
          rcases List.mem_cons.1 hdot with hdot | hdot
          · exact hc hdot.symm
          · exact ih List.mem_cons_self hdot
        · exact ih (List.mem_cons_of_mem first h)

theorem madeOf_pathSegments (path : String) : MadeOf path (pathSegments path) where
  nonempty := by
    rw [pathSegments]
    exact fun h => splitDots_ne_nil path.toList (List.map_eq_nil_iff.1 h)
  dotless := by
    intro segment h
    obtain ⟨part, hpart, rfl⟩ := List.mem_map.1 h
    rw [String.toList_ofList]
    exact not_mem_of_mem_splitDots hpart
  joined := by
    have hparts : (pathSegments path).map String.toList = path.toList.splitOn '.' := by
      rw [pathSegments, List.map_map, splitDots_eq_splitOn]
      simp [Function.comp_def]
    apply String.toList_inj.1
    rw [String.toList_intercalate, hparts]
    exact List.intercalate_splitOn '.'

/-- A path is made of its segments, empty ones included, and of no other ones. -/
theorem madeOf_iff {path : String} {segments : List String} :
    MadeOf path segments ↔ segments = pathSegments path := by
  constructor
  · intro h
    have hsplit : splitDots path.toList = segments.map String.toList := by
      rw [splitDots_eq_splitOn, ← h.joined, String.toList_intercalate]
      apply List.splitOn_intercalate '.'
      · intro part hpart
        obtain ⟨segment, hsegment, rfl⟩ := List.mem_map.1 hpart
        exact h.dotless segment hsegment
      · exact fun hnil => h.nonempty (List.map_eq_nil_iff.1 hnil)
    rw [pathSegments, hsplit, List.map_map]
    simp [Function.comp_def]
  · rintro rfl
    exact madeOf_pathSegments path

theorem pathSegments_append_dot (a b : String) :
    pathSegments (a ++ "." ++ b) = pathSegments a ++ pathSegments b := by
  have htext : (a ++ "." ++ b).toList = a.toList ++ '.' :: b.toList := by
    simp
  rw [pathSegments, htext, splitDots_append_dot, List.map_append, pathSegments, pathSegments]

namespace Value

/-! ## Following segments -/

/-- A null and every other value that is no map ends all paths. -/
theorem follow_of_asMap?_eq_none {v : Value} (h : v.asMap? = none) (path : List String) :
    v.follow path = .ok v := by
  cases path with
  | nil => rw [follow]
  | cons segment rest =>
    cases v with
    | map entries => cases h
    | _ => rfl

theorem eq_map_of_asMap?_eq_some {v : Value} {entries : List (String × Value)}
    (h : v.asMap? = some entries) : v = map entries := by
  cases v with
  | map entries' => exact congrArg map (Option.some.inj h)
  | _ => cases h

/-- Following segments is following the first ones, and then the others from there. The first ones
may end early, in a value where the others end at once, or be refused before the others begin. -/
theorem follow_append (v : Value) (front back : List String) :
    v.follow (front ++ back) = (v.follow front).bind fun w => w.follow back := by
  induction front generalizing v with
  | nil =>
    rw [List.nil_append, follow]
    rfl
  | cons segment rest ih =>
    cases hmap : v.asMap? with
    | none =>
      -- The whole path ends here, and so do the first segments; the others then end here as well.
      rw [follow_of_asMap?_eq_none hmap, follow_of_asMap?_eq_none hmap]
      exact (follow_of_asMap?_eq_none hmap back).symm
    | some entries =>
      rw [eq_map_of_asMap?_eq_some hmap, List.cons_append, follow, follow]
      cases entries.lookup segment with
      | none => rfl
      | some inner => exact ih inner

/-- Where a path leads: from a map into its entry, and no further from any other value. -/
inductive Leads : Value → List String → Value → Prop where
  | here (v : Value) : Leads v [] v
  | stay {v : Value} (path : List String) (h : v.asMap? = none) : Leads v path v
  | entry {entries : List (String × Value)} {segment : String} {rest : List String} {v x : Value}
      (h : entries.lookup segment = some v) (hrest : Leads v rest x) :
      Leads (map entries) (segment :: rest) x

/-- The path comes to a map without an entry for its next segment, and these are the names that the
map has. -/
inductive Lacks : Value → List String → String → List String → Prop where
  | here {entries : List (String × Value)} {segment : String} (rest : List String)
      (h : entries.lookup segment = none) :
      Lacks (map entries) (segment :: rest) segment (Named.names entries)
  | inside {entries : List (String × Value)} {name : String} {rest : List String} {v : Value}
      {segment : String} {available : List String} (h : entries.lookup name = some v)
      (hrest : Lacks v rest segment available) :
      Lacks (map entries) (name :: rest) segment available

theorem Leads.follow {v x : Value} {path : List String} (h : Leads v path x) :
    v.follow path = .ok x := by
  induction h with
  | here v => rw [Value.follow]
  | stay path h => exact follow_of_asMap?_eq_none h path
  | entry h hrest ih => exact follow_map_eq_ok_iff.2 ⟨_, h, ih⟩

theorem Lacks.follow {v : Value} {path : List String} {segment : String} {available : List String}
    (h : Lacks v path segment available) :
    v.follow path = .error (.parameterNotFound segment available) := by
  induction h with
  | here rest h => rw [Value.follow, h]
  | inside h hrest ih =>
    rw [Value.follow, h]
    exact ih

/-- Every path leads somewhere, or there is a map that lacks a segment of it. -/
theorem leads_or_lacks (v : Value) (path : List String) :
    (∃ x, Leads v path x) ∨ ∃ segment available, Lacks v path segment available := by
  induction path generalizing v with
  | nil => exact Or.inl ⟨v, .here v⟩
  | cons segment rest ih =>
    cases hmap : v.asMap? with
    | none => exact Or.inl ⟨v, .stay _ hmap⟩
    | some entries =>
      obtain rfl := eq_map_of_asMap?_eq_some hmap
      cases hlookup : entries.lookup segment with
      | none => exact Or.inr ⟨segment, _, .here rest hlookup⟩
      | some inner =>
        rcases ih inner with ⟨x, hx⟩ | ⟨missing, available, hlacks⟩
        · exact Or.inl ⟨x, .entry hlookup hx⟩
        · exact Or.inr ⟨missing, available, .inside hlookup hlacks⟩

theorem follow_eq_ok_iff {v x : Value} {path : List String} :
    v.follow path = .ok x ↔ Leads v path x := by
  refine ⟨fun h => ?_, Leads.follow⟩
  rcases leads_or_lacks v path with ⟨y, hy⟩ | ⟨segment, available, hlacks⟩
  · rw [hy.follow] at h
    exact Except.ok.inj h ▸ hy
  · rw [hlacks.follow] at h
    cases h

/-- A path is refused for no other reason than that a map lacks a segment. -/
theorem follow_eq_error_iff {v : Value} {path : List String} {e : BindingError} :
    v.follow path = .error e ↔
      ∃ segment available, e = .parameterNotFound segment available ∧
        Lacks v path segment available := by
  constructor
  · intro h
    rcases leads_or_lacks v path with ⟨x, hx⟩ | ⟨segment, available, hlacks⟩
    · rw [hx.follow] at h
      cases h
    · rw [hlacks.follow] at h
      exact ⟨segment, available, (Except.error.inj h).symm, hlacks⟩
  · rintro ⟨segment, available, rfl, hlacks⟩
    exact hlacks.follow

theorem follow_eq_parameterNotFound_iff {v : Value} {path : List String} {segment : String}
    {available : List String} :
    v.follow path = .error (.parameterNotFound segment available) ↔
      Lacks v path segment available := by
  refine ⟨fun h => ?_, Lacks.follow⟩
  obtain ⟨segment', available', heq, hlacks⟩ := follow_eq_error_iff.1 h
  cases heq
  exact hlacks

theorem leads_append {v x : Value} {front back : List String} :
    Leads v (front ++ back) x ↔ ∃ w, Leads v front w ∧ Leads w back x := by
  simp only [← follow_eq_ok_iff, follow_append]
  cases v.follow front with
  | error e => simp [Except.bind]
  | ok w => simp [Except.bind]

theorem lacks_append {v : Value} {front back : List String} {segment : String}
    {available : List String} :
    Lacks v (front ++ back) segment available ↔
      Lacks v front segment available ∨ ∃ w, Leads v front w ∧ Lacks w back segment available := by
  simp only [← follow_eq_parameterNotFound_iff, ← follow_eq_ok_iff, follow_append]
  cases v.follow front with
  | error e => simp [Except.bind]
  | ok w => simp [Except.bind]

/-! ## Joined paths -/

theorem resolve_append_dot (v : Value) (a b : String) :
    v.resolve (a ++ "." ++ b) = (v.resolve a).bind fun w => w.resolve b := by
  unfold resolve
  rw [pathSegments_append_dot]
  exact follow_append v (pathSegments a) (pathSegments b)

/-- A path joined of two resolves as the second one does in what the first one resolves to, and it
fails as the one of these two steps that fails. So it resolves to where the segments of the first one
and then those of the second one lead, and it is refused if and only if a map on that way lacks a
segment, with this segment and the names of this map. -/
theorem joined_paths_compose (v : Value) (a b : String) :
    v.resolve (a ++ "." ++ b) = (v.resolve a).bind (fun w => w.resolve b) ∧
      ∃ front back, MadeOf a front ∧ MadeOf b back ∧
        (∀ x, v.resolve (a ++ "." ++ b) = .ok x ↔ ∃ w, Leads v front w ∧ Leads w back x) ∧
        ∀ e, v.resolve (a ++ "." ++ b) = .error e ↔
          ∃ segment available, e = .parameterNotFound segment available ∧
            (Lacks v front segment available ∨
              ∃ w, Leads v front w ∧ Lacks w back segment available) := by
  refine ⟨v.resolve_append_dot a b, pathSegments a, pathSegments b, madeOf_iff.2 rfl,
    madeOf_iff.2 rfl, fun x => ?_, fun e => ?_⟩
  · rw [resolve, pathSegments_append_dot, follow_eq_ok_iff, leads_append]
  · rw [resolve, pathSegments_append_dot, follow_eq_error_iff]
    simp only [lacks_append]

/-- An empty segment is a name like any other, and a list ends a path before its last segments. -/
example : (map [("", map [("", list [.int 7])])]).resolve "..0.name" = .ok (list [.int 7]) :=
  rfl

end Value

end DataMapper
