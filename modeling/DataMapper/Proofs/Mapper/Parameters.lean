import DataMapper.Proofs.Mapper.Binding
/-!
# Bound parameters

What the arguments of a method are bound to, without any remainder. In a map of bound arguments the
name of a parameter stands for the argument of the last parameter that goes by it, an alias that is
nobody's name stands for the argument at its number, and nothing else is in the map.
-/

namespace DataMapper

namespace ParamNames

/-! ## Aliases -/

theorem aliasOf_injective {i j : Nat} (h : aliasOf i = aliasOf j) : i = j := by
  unfold aliasOf at h
  rw [String.append_right_inj] at h
  have hdigits : Nat.toDigits 10 (i + 1) = Nat.toDigits 10 (j + 1) := by
    simpa only [Nat.toString_eq_ofList_toDigits, String.toList_ofList] using
      congrArg String.toList h
  -- Reading the digits back tells the numbers apart, however long they are.
  have hread : i + 1 = j + 1 :=
    calc i + 1 = Nat.ofDigitChars 10 (Nat.toDigits 10 (i + 1)) 0 :=
          Nat.ofDigitChars_ten_toDigits.symm
      _ = Nat.ofDigitChars 10 (Nat.toDigits 10 (j + 1)) 0 := by rw [hdigits]
      _ = j + 1 := Nat.ofDigitChars_ten_toDigits
  omega

/-! ## Parameters with their names and arguments -/

/-- The value parameters, each with the argument that is passed for it, in the order of
declaration. -/
def passed (params : List ParamSpec) (args : List Arg) : List (ParamSpec × Value) :=
  (params.zip args).filterMap fun e => e.2.value?.map fun v => (e.1, v)

/-- The name of a value parameter with a given number of value parameters before it. -/
inductive GoesBy (useActual : Bool) (before : Nat) (p : ParamSpec) : String → Prop where
  | explicit {name : String} (h : p.explicitName = some name) : GoesBy useActual before p name
  | actual {name : String} (unset : p.explicitName = none) (known : p.actualName = some name)
    (wanted : useActual = true) : GoesBy useActual before p name
  | number (unset : p.explicitName = none) (noName : p.actualName = none ∨ useActual = false) :
    GoesBy useActual before p (toString before)

/-- Who has which name and which argument, by the number of value parameters before. -/
def Bears (useActual : Bool) (passed : List (ParamSpec × Value)) (before : Nat) (name : String)
    (v : Value) : Prop :=
  ∃ p, passed[before]? = some (p, v) ∧ GoesBy useActual before p name

/-- What stands under a key: the argument of the last parameter of that name, or else the argument
at the number of an alias that is nobody's name. -/
inductive StandsFor (bears : Nat → String → Value → Prop) (key : String) (v : Value) : Prop where
  | name {i : Nat} (h : bears i key v) (last : ∀ j w, i < j → ¬ bears j key w) :
    StandsFor bears key v
  | number {i : Nat} {name : String} (h : bears i name v)
    (hkey : key = "param" ++ toString (i + 1)) (nobody : ∀ j w, ¬ bears j key w) :
    StandsFor bears key v

/-- What value parameters are bound to with their arguments: nothing to null, a single argument
without an explicit name to itself, and any others to a map. -/
inductive Binds (useActual : Bool) : List (ParamSpec × Value) → Value → Prop where
  | nothing : Binds useActual [] .null
  | bare {p : ParamSpec} {v : Value} (h : p.explicitName = none) : Binds useActual [(p, v)] v
  | map {passed : List (ParamSpec × Value)} {entries : List (String × Value)}
    (nonempty : passed ≠ []) (notBare : ∀ p v, passed = [(p, v)] → p.explicitName ≠ none)
    (ascending : Named.Ascending entries)
    (holds : ∀ key v,
      entries.lookup key = some v ↔ StandsFor (Bears useActual passed) key v) :
    Binds useActual passed (.map entries)

variable {useActual : Bool} {params : List ParamSpec} {args : List Arg}

/-- The rule names every parameter, and leaves no choice. -/
theorem goesBy_iff {before : Nat} {p : ParamSpec} {name : String} :
    GoesBy useActual before p name ↔ nameOf useActual before p = name := by
  obtain ⟨kind, explicitName, actualName⟩ := p
  constructor
  · intro h
    cases h with
    | explicit h =>
      cases h
      rfl
    | actual unset known wanted =>
      cases unset
      cases known
      exact if_pos wanted
    | number unset noName =>
      cases unset
      cases actualName with
      | none => rfl
      | some actual => exact if_neg (by simpa using noName)
  · rintro rfl
    cases explicitName with
    | some explicit => exact .explicit rfl
    | none =>
      cases actualName with
      | none => exact .number rfl (.inl rfl)
      | some actual =>
        cases useActual with
        | true => exact .actual rfl rfl rfl
        | false => exact .number rfl (.inr rfl)

theorem passed_cons_value (p : ParamSpec) (v : Value) (params : List ParamSpec)
    (args : List Arg) : passed (p :: params) (.value v :: args) = (p, v) :: passed params args :=
  rfl

theorem passed_cons_of_none {arg : Arg} (h : arg.value? = none) (p : ParamSpec)
    (params : List ParamSpec) (args : List Arg) :
    passed (p :: params) (arg :: args) = passed params args := by
  simp [passed, h]

/-- Exactly the value parameters have an argument among the values. -/
theorem map_fst_passed (h : args.map Arg.kind = params.map ParamSpec.kind) :
    (passed params args).map Prod.fst = params.filter fun p => !p.kind.isSpecial := by
  induction params generalizing args with
  | nil => rfl
  | cons p rest ih =>
    cases args with
    | nil => simp at h
    | cons arg args =>
      obtain ⟨hkind, hrest⟩ : arg.kind = p.kind ∧ args.map Arg.kind = rest.map ParamSpec.kind := by
        simpa using h
      cases arg with
      | value v =>
        have hvalue : p.kind.isSpecial = false := hkind ▸ rfl
        rw [passed_cons_value, List.map_cons, ih hrest]
        simp [hvalue]
      | bounds b =>
        have hspecial : p.kind.isSpecial = true := hkind ▸ rfl
        rw [passed_cons_of_none rfl, ih hrest]
        simp [hspecial]
      | handler handler =>
        have hspecial : p.kind.isSpecial = true := hkind ▸ rfl
        rw [passed_cons_of_none rfl, ih hrest]
        simp [hspecial]

/-- The names that are assigned by position are those of the value parameters in their order. -/
theorem given_assign (before : List Arg) (ordinal : Nat)
    (h : args.map Arg.kind = params.map ParamSpec.kind) :
    given (before ++ args) (assign useActual before.length ordinal params) =
      (passed params args).mapIdx fun i e => (nameOf useActual (ordinal + i) e.1, e.2) := by
  induction params generalizing args before ordinal with
  | nil => rfl
  | cons p rest ih =>
    cases args with
    | nil => simp at h
    | cons arg args =>
      obtain ⟨hkind, hrest⟩ : arg.kind = p.kind ∧ args.map Arg.kind = rest.map ParamSpec.kind := by
        simpa using h
      have hmoved : before ++ arg :: args = (before ++ [arg]) ++ args := by simp
      have hstart : before.length + 1 = (before ++ [arg]).length := by simp
      unfold assign
      cases arg with
      | value v =>
        have hvalue : p.kind.isSpecial = false := hkind ▸ rfl
        have hat : (before ++ .value v :: args)[before.length]? = some (.value v) := by simp
        have hshift : ∀ i, ordinal + 1 + i = ordinal + (i + 1) := by omega
        rw [if_neg (by simp [hvalue]), given_cons hat, hmoved, hstart, ih _ _ hrest,
          passed_cons_value, List.mapIdx_cons]
        simp only [hshift, Nat.add_zero]
      | bounds b =>
        have hspecial : p.kind.isSpecial = true := hkind ▸ rfl
        rw [if_pos hspecial, hmoved, hstart, ih _ _ hrest, passed_cons_of_none rfl]
      | handler handler =>
        have hspecial : p.kind.isSpecial = true := hkind ▸ rfl
        rw [if_pos hspecial, hmoved, hstart, ih _ _ hrest, passed_cons_of_none rfl]

theorem map_fst_given {names : List (Nat × String)}
    (h : ∀ p ∈ names, ∃ v, args[p.1]? = some (.value v)) :
    (given args names).map Prod.fst = names.map Prod.snd := by
  induction names with
  | nil => rfl
  | cons p rest ih =>
    obtain ⟨v, hv⟩ := h p List.mem_cons_self
    rw [given_cons hv, List.map_cons, List.map_cons, ih fun q hq => h q (List.mem_cons_of_mem _ hq)]

/-! ## Lookups in what was entered -/

/-- Looked up from the end, a list answers with the last entry of a name. -/
theorem lookup_reverse_eq_some_iff {named : List (String × Value)} {key : String} {v : Value} :
    named.reverse.lookup key = some v ↔
      ∃ i : Nat, named[i]? = some (key, v) ∧
        ∀ (j : Nat) w, i < j → named[j]? ≠ some (key, w) := by
  induction named generalizing v with
  | nil => simp
  | cons e rest ih =>
    obtain ⟨name, w⟩ := e
    rw [List.reverse_cons, List.lookup_append, lookup_cons_ite, List.lookup_nil]
    cases hrest : rest.reverse.lookup key with
    | some u =>
      obtain ⟨i, hi, hlast⟩ := ih.1 hrest
      rw [Option.some_or]
      constructor
      · rintro ⟨⟩
        refine ⟨i + 1, hi, fun j x hj => ?_⟩
        obtain ⟨k, rfl⟩ : ∃ k, j = k + 1 := ⟨j - 1, by omega⟩
        exact hlast k x (by omega)
      · rintro ⟨k, hk, hafter⟩
        cases k with
        | zero => exact absurd hi (hafter (i + 1) u (by omega))
        | succ k =>
          rw [← hrest]
          exact ih.2 ⟨k, hk, fun j x hj => hafter (j + 1) x (by omega)⟩
    | none =>
      have hnone : ∀ (j : Nat) x, rest[j]? ≠ some (key, x) := by
        intro j x hj
        have hmem : (key, x) ∈ rest.reverse := List.mem_reverse.2 (List.mem_of_getElem? hj)
        exact absurd rfl (bne_iff_ne.1 (List.lookup_eq_none_iff.1 hrest _ hmem))
      rw [Option.none_or]
      constructor
      · intro h
        split_ifs at h with hname
        cases h
        refine ⟨0, by rw [hname]; rfl, fun j x hj => ?_⟩
        obtain ⟨k, rfl⟩ : ∃ k, j = k + 1 := ⟨j - 1, by omega⟩
        exact hnone k x
      · rintro ⟨k, hk, -⟩
        cases k with
        | zero =>
          cases hk
          exact if_pos rfl
        | succ k => exact absurd hk (hnone k v)

variable {n : ParamNames} {bound : List (String × Value)}

theorem ascending_bindFrom {ordinal : Nat} {names : List (Nat × String)}
    {entries : List (String × Value)} (h : n.bindFrom args ordinal names entries = .ok bound)
    (hentries : Named.Ascending entries) : Named.Ascending bound := by
  induction names generalizing ordinal entries with
  | nil =>
    cases h
    exact hentries
  | cons p rest ih =>
    obtain ⟨position, name⟩ := p
    unfold bindFrom at h
    split at h
    · cases h
    · next v _ =>
      have hnamed := Named.ascending_insert name v hentries
      refine ih h ?_
      split_ifs
      · exact hnamed
      · exact Named.ascending_insert (aliasOf ordinal) v hnamed

/-- A key that is nobody's name is touched by an alias only. -/
theorem lookup_entered_of_not_mem (ordinal : Nat) (v : Value) (entries : List (String × Value))
    {key name : String} (hname : name ∈ n.toList) (hkey : key ∉ n.toList) :
    (if n.toList.contains (aliasOf ordinal) then Named.insert name v entries
      else Named.insert (aliasOf ordinal) v (Named.insert name v entries)).lookup key =
        if key = aliasOf ordinal then some v else entries.lookup key := by
  have hne : key ≠ name := fun heq => hkey (heq ▸ hname)
  split_ifs with halias heq heq
  · exact absurd (List.contains_iff_mem.1 halias) (heq ▸ hkey)
  · rw [Named.lookup_insert, if_neg hne]
  · rw [Named.lookup_insert, if_pos heq]
  · rw [Named.lookup_insert, if_neg heq, Named.lookup_insert, if_neg hne]

/-- Arguments under the aliases of their parameters, from a number on. -/
def aliased (ordinal : Nat) (named : List (String × Value)) : List (String × Value) :=
  named.mapIdx fun i e => (aliasOf (ordinal + i), e.2)

theorem aliased_cons (ordinal : Nat) (e : String × Value) (rest : List (String × Value)) :
    aliased ordinal (e :: rest) = (aliasOf ordinal, e.2) :: aliased (ordinal + 1) rest := by
  have hshift : ∀ i, ordinal + 1 + i = ordinal + (i + 1) := by omega
  unfold aliased
  simp only [List.mapIdx_cons, hshift, Nat.add_zero]

/-- Under a key that is nobody's name stands what was entered under it as an alias. -/
theorem lookup_bindFrom_of_not_mem {ordinal : Nat} {names : List (Nat × String)}
    {entries : List (String × Value)} (h : n.bindFrom args ordinal names entries = .ok bound)
    (hvalues : ∀ p ∈ names, ∃ v, args[p.1]? = some (.value v))
    (hnames : ∀ p ∈ names, p.2 ∈ n.toList) {key : String} (hkey : key ∉ n.toList) :
    bound.lookup key =
      ((aliased ordinal (given args names)).reverse.lookup key).or (entries.lookup key) := by
  induction names generalizing ordinal entries with
  | nil =>
    cases h
    rfl
  | cons p rest ih =>
    obtain ⟨position, name⟩ := p
    obtain ⟨v, hv⟩ := hvalues _ List.mem_cons_self
    unfold bindFrom at h
    rw [valueAt_eq hv] at h
    dsimp only at h
    have hrest := ih h (fun p hp => hvalues p (List.mem_cons_of_mem _ hp))
      fun p hp => hnames p (List.mem_cons_of_mem _ hp)
    rw [hrest, lookup_entered_of_not_mem ordinal v entries (hnames _ List.mem_cons_self) hkey,
      given_cons hv, aliased_cons, List.reverse_cons, List.lookup_append, Option.or_assoc,
      lookup_cons_ite]
    split_ifs <;> rfl

theorem lookup_aliased_eq_some_iff {named : List (String × Value)} {key : String} {v : Value} :
    (aliased 0 named).reverse.lookup key = some v ↔
      ∃ (i : Nat) (name : String), named[i]? = some (name, v) ∧
        key = "param" ++ toString (i + 1) := by
  have hat : ∀ (i : Nat) key v, (aliased 0 named)[i]? = some (key, v) ↔
      ∃ name, named[i]? = some (name, v) ∧ key = aliasOf i := by
    intro i key v
    unfold aliased
    rw [List.getElem?_mapIdx, Option.map_eq_some_iff, Nat.zero_add]
    constructor
    · rintro ⟨⟨name, w⟩, hw, heq⟩
      cases heq
      exact ⟨name, hw, rfl⟩
    · rintro ⟨name, hname, rfl⟩
      exact ⟨(name, v), hname, rfl⟩
  rw [lookup_reverse_eq_some_iff]
  constructor
  · rintro ⟨i, hi, -⟩
    exact ⟨i, (hat i key v).1 hi⟩
  · rintro ⟨i, name, hi, hkey⟩
    refine ⟨i, (hat i key v).2 ⟨name, hi, hkey⟩, fun j w hj hother => ?_⟩
    obtain ⟨-, -, hsame⟩ := (hat j key w).1 hother
    have hnumber : i = j := aliasOf_injective (hkey.symm.trans hsame)
    omega

/-! ## All that is bound -/

/-- What stands under a key after all arguments were entered. -/
theorem lookup_eq_some_iff_standsFor (h : n.bindFrom args 0 n.names [] = .ok bound)
    (hvalues : ∀ p ∈ n.names, ∃ v, args[p.1]? = some (.value v)) {key : String} {v : Value} :
    bound.lookup key = some v ↔
      StandsFor (fun i name w => (given args n.names)[i]? = some (name, w)) key v := by
  have htoList : (given args n.names).map Prod.fst = n.toList := map_fst_given hvalues
  have hmem : key ∈ n.toList ↔
      ∃ (j : Nat) (w : Value), (given args n.names)[j]? = some (key, w) := by
    rw [← htoList, List.mem_map]
    constructor
    · rintro ⟨⟨_, w⟩, he, rfl⟩
      obtain ⟨j, hj⟩ := List.mem_iff_getElem?.1 he
      exact ⟨j, w, hj⟩
    · rintro ⟨j, w, hj⟩
      exact ⟨(key, w), List.mem_of_getElem? hj, rfl⟩
  by_cases hkey : key ∈ n.toList
  · obtain ⟨bound', hbound', hlookup⟩ := lookup_bindFrom (n := n) 0 n.names [] hvalues
    cases h.symm.trans hbound'
    rw [hlookup key hkey, List.lookup_nil, Option.or_none, lookup_reverse_eq_some_iff]
    constructor
    · rintro ⟨i, hi, hlast⟩
      exact .name hi hlast
    · intro hstands
      cases hstands with
      | name hi hlast => exact ⟨_, hi, hlast⟩
      | number hi halias hnobody =>
        obtain ⟨j, w, hj⟩ := hmem.1 hkey
        exact absurd hj (hnobody j w)
  · have hnames : ∀ p ∈ n.names, p.2 ∈ n.toList := by
      intro p hp
      exact List.mem_map_of_mem hp
    rw [lookup_bindFrom_of_not_mem h hvalues hnames hkey, List.lookup_nil, Option.or_none,
      lookup_aliased_eq_some_iff]
    constructor
    · rintro ⟨i, name, hi, halias⟩
      exact .number hi halias fun j w hj => hkey (hmem.2 ⟨j, w, hj⟩)
    · intro hstands
      cases hstands with
      | name hi hlast => exact absurd (hmem.2 ⟨_, _, hi⟩) hkey
      | number hi halias hnobody => exact ⟨_, _, hi, halias⟩

variable {m : MethodSignature}

theorem given_ofSignature (htakes : m.Takes args) (useActual : Bool) :
    given args (ofSignature m useActual).names =
      (passed m.params args).mapIdx fun i e => (nameOf useActual i e.1, e.2) := by
  have hgiven : given ([] ++ args) (assign useActual 0 0 m.params) =
      (passed m.params args).mapIdx fun i e => (nameOf useActual (0 + i) e.1, e.2) :=
    given_assign [] 0 htakes
  simp only [List.nil_append, Nat.zero_add] at hgiven
  exact hgiven

/-- The names by position are those that the parameters go by. -/
theorem getElem?_given_iff (htakes : m.Takes args) (useActual : Bool) (i : Nat) (name : String)
    (v : Value) :
    (given args (ofSignature m useActual).names)[i]? = some (name, v) ↔
      Bears useActual (passed m.params args) i name v := by
  rw [given_ofSignature htakes, List.getElem?_mapIdx, Option.map_eq_some_iff]
  constructor
  · rintro ⟨⟨p, w⟩, hpassed, heq⟩
    cases heq
    exact ⟨p, hpassed, goesBy_iff.2 rfl⟩
  · rintro ⟨p, hpassed, hname⟩
    exact ⟨(p, v), hpassed, by rw [goesBy_iff.1 hname]⟩

theorem hasExplicitName_eq (htakes : m.Takes args) (useActual : Bool) :
    (ofSignature m useActual).hasExplicitName =
      (passed m.params args).any fun e => e.1.explicitName.isSome := by
  have hany : ((passed m.params args).map Prod.fst).any (fun p => p.explicitName.isSome) =
      (passed m.params args).any fun e => e.1.explicitName.isSome := by
    rw [List.any_map]
    rfl
  rw [← hany, map_fst_passed htakes, List.any_filter]
  rfl

/-- Arguments of the declared number and kinds are always bound, and so that every key of a map is
accounted for. -/
theorem binding_is_exact (htakes : m.Takes args) (useActual : Bool) :
    (passed m.params args).map Prod.fst = m.params.filter (fun p => !p.kind.isSpecial) ∧
      ∃ parameter, (ofSignature m useActual).bind args = .ok parameter ∧
        Binds useActual (passed m.params args) parameter := by
  refine ⟨map_fst_passed htakes, ?_⟩
  have hvalues := exists_value_of_mem htakes useActual
  have hgiven := given_ofSignature htakes useActual
  have hbears := getElem?_given_iff htakes useActual
  have hexplicit := hasExplicitName_eq htakes useActual
  have hlength : (passed m.params args).length = (ofSignature m useActual).names.length := by
    have hnames := congrArg List.length (map_fst_given hvalues)
    rwa [List.length_map, List.length_map, hgiven, List.length_mapIdx] at hnames
  generalize ofSignature m useActual = n at hvalues hgiven hbears hexplicit hlength
  unfold bind
  split
  · next hnames =>
    rw [hnames, List.length_nil, List.length_eq_zero_iff] at hlength
    exact ⟨.null, rfl, hlength ▸ .nothing⟩
  · next position name hnames hfalse =>
    rw [hnames] at hvalues hgiven hlength
    obtain ⟨v, hv⟩ := hvalues _ List.mem_cons_self
    obtain ⟨⟨p, w⟩, hpassed⟩ := List.length_eq_one_iff.1 hlength
    rw [hpassed] at hgiven hexplicit ⊢
    rw [given_cons hv] at hgiven
    cases hgiven
    refine ⟨w, valueAt_eq hv n, .bare ?_⟩
    simpa [hfalse] using hexplicit
  · next hnone hsingle =>
    obtain ⟨entries, hentries, -⟩ := lookup_bindFrom (n := n) 0 n.names [] hvalues
    refine ⟨.map entries, congrArg (Except.map Value.map) hentries, .map ?_ ?_ ?_ fun key v => ?_⟩
    · intro hnil
      rw [hnil] at hlength
      exact hnone (List.length_eq_zero_iff.1 hlength.symm)
    · intro p v hp hp'
      rw [hp] at hlength hexplicit
      obtain ⟨⟨position, name⟩, hnames⟩ := List.length_eq_one_iff.1 hlength.symm
      exact hsingle position name hnames (by simpa [hp'] using hexplicit)
    · exact ascending_bindFrom hentries .nil
    · rw [lookup_eq_some_iff_standsFor hentries hvalues]
      simp only [hbears]

/-- The number of the second value is the name of the first, and the name that the third has in its
declaration is the alias of the first: this reaches the first only where such names are unwanted. -/
theorem first_argument_needs_its_alias :
    let m : MethodSignature :=
      { name := "find", params := [.named "1", .rowBounds, .unnamed, .value "param1"],
        returns := .many }
    let args : List Arg := [.value (.int 1), .bounds .all, .value (.int 2), .value (.int 3)]
    m.Takes args ∧
      Binds true (passed m.params args)
        (.map [("1", .int 2), ("param1", .int 3), ("param2", .int 2), ("param3", .int 3)]) ∧
      Binds false (passed m.params args)
        (.map [("1", .int 2), ("2", .int 3), ("param1", .int 1), ("param2", .int 2),
          ("param3", .int 3)]) := by
  intro m args
  have htakes : m.Takes args := rfl
  have hwanted : (ofSignature m true).bind args =
      .ok (.map [("1", .int 2), ("param1", .int 3), ("param2", .int 2), ("param3", .int 3)]) := by
    decide +kernel
  have hunwanted : (ofSignature m false).bind args =
      .ok (.map [("1", .int 2), ("2", .int 3), ("param1", .int 1), ("param2", .int 2),
        ("param3", .int 3)]) := by
    decide +kernel
  obtain ⟨-, wanted, hboundWanted, hbindsWanted⟩ := binding_is_exact htakes true
  obtain ⟨-, unwanted, hboundUnwanted, hbindsUnwanted⟩ := binding_is_exact htakes false
  cases hwanted.symm.trans hboundWanted
  cases hunwanted.symm.trans hboundUnwanted
  exact ⟨htakes, hbindsWanted, hbindsUnwanted⟩

end ParamNames

end DataMapper
