import DataMapper.Mapper.Params
import Mathlib.Data.List.Basic
/-!
# Binding of arguments

What a map of bound arguments holds under the names of its parameters. Every value parameter enters
its argument under its name, in the order of declaration, so that of several with one name the last
counts. An alias is entered only where it is nobody's name.
-/

namespace DataMapper

namespace MethodSignature

/-- The explicit names of the value parameters, in the order of declaration. -/
def explicitNames (m : MethodSignature) : List String :=
  (m.params.filter fun p => !p.kind.isSpecial).filterMap ParamSpec.explicitName

/-- The arguments have the declared number and kinds. -/
def Takes (m : MethodSignature) (args : List Arg) : Prop :=
  args.map Arg.kind = m.params.map ParamSpec.kind

instance (m : MethodSignature) (args : List Arg) : Decidable (m.Takes args) :=
  inferInstanceAs (Decidable (_ = _))

variable {m : MethodSignature} {args : List Arg}

theorem Takes.exists_arg (h : m.Takes args) {position : Nat} {p : ParamSpec}
    (hp : m.params[position]? = some p) :
    ∃ arg, args[position]? = some arg ∧ arg.kind = p.kind := by
  have hkinds : (args.map Arg.kind)[position]? = (m.params.map ParamSpec.kind)[position]? := by
    rw [h]
  rw [List.getElem?_map, List.getElem?_map, hp] at hkinds
  exact Option.map_eq_some_iff.1 hkinds

/-- A value is passed for every value parameter. -/
theorem Takes.exists_value (h : m.Takes args) {position : Nat} {p : ParamSpec}
    (hp : m.params[position]? = some p) (hvalue : p.kind.isSpecial = false) :
    ∃ v, args[position]? = some (.value v) := by
  obtain ⟨arg, harg, hkind⟩ := h.exists_arg hp
  rw [← hkind] at hvalue
  cases arg with
  | value v => exact ⟨v, harg⟩
  | bounds b => cases hvalue
  | handler h => cases hvalue

/-- No two value parameters declare one name. -/
theorem ne_of_explicit (h : m.explicitNames.Nodup) {i j : Nat} (hij : i < j) {p q : ParamSpec}
    (hp : m.params[i]? = some p) (hq : m.params[j]? = some q) (hpv : p.kind.isSpecial = false)
    (hqv : q.kind.isSpecial = false) {name : String} (hname : p.explicitName = some name) :
    q.explicitName ≠ some name := by
  intro hother
  obtain ⟨hi, rfl⟩ := List.getElem?_eq_some_iff.1 hp
  obtain ⟨hj, rfl⟩ := List.getElem?_eq_some_iff.1 hq
  unfold explicitNames at h
  rw [List.Nodup, List.pairwise_filterMap, List.pairwise_filter, List.pairwise_iff_getElem] at h
  exact h i j hi hj hij (by simpa using hpv) (by simpa using hqv) name hname name hother rfl

end MethodSignature

namespace ParamNames

/-! ## Names of parameters -/

section Names

variable {useActual : Bool} {params : List ParamSpec} {start ordinal position : Nat}
  {name : String}

theorem nameOf_of_explicit {p : ParamSpec} (h : p.explicitName = some name) :
    nameOf useActual ordinal p = name := by
  unfold nameOf
  rw [h]

/-- Each value parameter has a name, and no other parameter has one. -/
theorem mem_assign :
    (position, name) ∈ assign useActual start ordinal params ↔
      ∃ i p, params[i]? = some p ∧ p.kind.isSpecial = false ∧ position = start + i ∧
        name = nameOf useActual
          (ordinal + (params.take i).countP fun p => !p.kind.isSpecial) p := by
  induction params generalizing start ordinal with
  | nil => simp [assign]
  | cons p rest ih =>
    have hsplit : ∀ P : Nat → ParamSpec → Prop,
        (∃ i q, (p :: rest)[i]? = some q ∧ P i q) ↔
          P 0 p ∨ ∃ i q, rest[i]? = some q ∧ P (i + 1) q := by
      intro P
      constructor
      · rintro ⟨i, q, hq, h⟩
        cases i with
        | zero => exact .inl (Option.some.inj hq ▸ h)
        | succ i => exact .inr ⟨i, q, hq, h⟩
      · rintro (h | ⟨i, q, hq, h⟩)
        · exact ⟨0, p, rfl, h⟩
        · exact ⟨i + 1, q, hq, h⟩
    rw [hsplit]
    unfold assign
    cases hp : p.kind.isSpecial with
    | true => simp [ih, hp, Nat.add_assoc, Nat.add_comm 1]
    | false => simp [ih, hp, Nat.add_assoc, Nat.add_comm 1]

theorem pairwise_assign (useActual : Bool) (start ordinal : Nat) (params : List ParamSpec) :
    (assign useActual start ordinal params).Pairwise fun a b => a.1 < b.1 := by
  induction params generalizing start ordinal with
  | nil => exact .nil
  | cons p rest ih =>
    unfold assign
    split_ifs
    · exact ih (start + 1) ordinal
    · refine List.pairwise_cons.2 ⟨fun b hb => ?_, ih (start + 1) (ordinal + 1)⟩
      obtain ⟨i, _, _, _, hposition, _⟩ := mem_assign.1 hb
      dsimp only
      omega

end Names

/-! ## What is entered -/

variable {n : ParamNames} {args : List Arg} {position : Nat} {name : String}

/-- The names with the values that are passed for them. -/
def given (args : List Arg) (names : List (Nat × String)) : List (String × Value) :=
  names.filterMap fun p => (args[p.1]?.bind Arg.value?).map fun v => (p.2, v)

theorem given_cons {v : Value} (h : args[position]? = some (.value v))
    (names : List (Nat × String)) :
    given args ((position, name) :: names) = (name, v) :: given args names := by
  unfold given
  rw [List.filterMap_cons, h]
  rfl

theorem valueAt_eq {v : Value} (h : args[position]? = some (.value v)) (n : ParamNames) :
    n.valueAt args position = .ok v := by
  unfold valueAt
  rw [h]
  rfl

/-- An alias does not touch what is entered under the names of parameters. -/
theorem lookup_entered (n : ParamNames) (ordinal : Nat) (v : Value)
    (entries : List (String × Value)) {key : String} (hkey : key ∈ n.toList) :
    (if n.toList.contains (aliasOf ordinal) then Named.insert name v entries
      else Named.insert (aliasOf ordinal) v (Named.insert name v entries)).lookup key =
        if key = name then some v else entries.lookup key := by
  cases halias : n.toList.contains (aliasOf ordinal) with
  | true =>
    rw [if_pos rfl]
    exact Named.lookup_insert name key v entries
  | false =>
    have hne : key ≠ aliasOf ordinal := by
      rintro rfl
      rw [List.contains_iff_mem.2 hkey] at halias
      cases halias
    rw [if_neg Bool.false_ne_true, Named.lookup_insert, if_neg hne, Named.lookup_insert]

/-- Every argument is entered under its name, and of several with one name the last counts. -/
theorem lookup_bindFrom (ordinal : Nat) (names : List (Nat × String))
    (entries : List (String × Value))
    (hvalues : ∀ p ∈ names, ∃ v, args[p.1]? = some (.value v)) :
    ∃ bound, n.bindFrom args ordinal names entries = .ok bound ∧
      ∀ key ∈ n.toList,
        bound.lookup key = ((given args names).reverse.lookup key).or (entries.lookup key) := by
  -- What is looked up later stands first in the reversed list, before what was there already.
  induction names generalizing ordinal entries with
  | nil => exact ⟨entries, rfl, fun key _ => rfl⟩
  | cons p rest ih =>
    obtain ⟨position, name⟩ := p
    obtain ⟨v, hv⟩ := hvalues _ List.mem_cons_self
    unfold bindFrom
    rw [valueAt_eq hv, given_cons hv]
    dsimp only
    obtain ⟨bound, hbound, hlookup⟩ := ih (ordinal + 1)
      (if n.toList.contains (aliasOf ordinal) then Named.insert name v entries
        else Named.insert (aliasOf ordinal) v (Named.insert name v entries))
      fun p hp => hvalues p (List.mem_cons_of_mem _ hp)
    refine ⟨bound, hbound, fun key hkey => ?_⟩
    rw [hlookup key hkey, lookup_entered n ordinal v entries hkey, List.reverse_cons,
      List.lookup_append, Option.or_assoc, lookup_cons_ite]
    split_ifs <;> rfl

/-- The last of the parameters with one name. -/
theorem lookup_given {names : List (Nat × String)} (hsorted : names.Pairwise fun a b => a.1 < b.1)
    (hmem : (position, name) ∈ names)
    (hlast : ∀ later, position < later → (later, name) ∉ names) {v : Value}
    (hv : args[position]? = some (.value v)) :
    (given args names).reverse.lookup name = some v := by
  obtain ⟨before, after, rfl⟩ := List.append_of_mem hmem
  have hlater := (List.pairwise_cons.1 (List.pairwise_append.1 hsorted).2.1).1
  have hnone : (given args after).reverse.lookup name = none := by
    refine List.lookup_eq_none_iff.2 fun e he => ?_
    obtain ⟨p, hp, hpe⟩ := List.mem_filterMap.1 (List.mem_reverse.1 he)
    obtain ⟨_, _, rfl⟩ := Option.map_eq_some_iff.1 hpe
    refine bne_iff_ne.2 fun heq => ?_
    have hafter : (p.1, name) ∈ before ++ (position, name) :: after :=
      List.mem_append_right _ (List.mem_cons_of_mem _ (heq ▸ hp))
    exact hlast p.1 (hlater p hp) hafter
  have hsplit : given args (before ++ (position, name) :: after) =
      given args before ++ (name, v) :: given args after := by
    rw [← given_cons hv]
    exact List.filterMap_append
  rw [hsplit, List.reverse_append, List.reverse_cons, List.lookup_append, List.lookup_append, hnone,
    List.lookup_cons_self]
  rfl

variable {m : MethodSignature} {useActual : Bool} {p : ParamSpec}

theorem exists_value_of_mem (htakes : m.Takes args) (useActual : Bool) :
    ∀ p ∈ (ofSignature m useActual).names, ∃ v, args[p.1]? = some (.value v) := by
  intro p hp
  obtain ⟨i, q, hq, hvalue, hposition, _⟩ := mem_assign.1 hp
  rw [hposition, Nat.zero_add]
  exact htakes.exists_value hq hvalue

/-- Arguments of the declared kinds are bound. -/
theorem exists_bind (htakes : m.Takes args) (useActual : Bool) :
    ∃ parameter, (ofSignature m useActual).bind args = .ok parameter := by
  have hvalues := exists_value_of_mem htakes useActual
  unfold bind
  split
  · exact ⟨_, rfl⟩
  · next position name hnames _ =>
    rw [hnames] at hvalues
    obtain ⟨v, hv⟩ := hvalues _ List.mem_cons_self
    exact ⟨v, valueAt_eq hv _⟩
  · obtain ⟨bound, hbound, _⟩ := lookup_bindFrom (n := ofSignature m useActual) 0 _ [] hvalues
    rw [hbound]
    exact ⟨_, rfl⟩

/-! ## Explicit names -/

theorem bind_of_explicit (h : n.hasExplicitName = true) (hmem : (position, name) ∈ n.names) :
    n.bind args = (n.bindFrom args 0 n.names []).map Value.map := by
  unfold bind
  split
  · next hnames =>
    rw [hnames] at hmem
    cases hmem
  · next hexplicit =>
    rw [h] at hexplicit
    cases hexplicit
  · rfl

theorem mem_names_of_explicit (hp : m.params[position]? = some p)
    (hvalue : p.kind.isSpecial = false) (hname : p.explicitName = some name) :
    (position, name) ∈ (ofSignature m useActual).names :=
  mem_assign.2 ⟨position, p, hp, hvalue, (Nat.zero_add position).symm,
    (nameOf_of_explicit hname).symm⟩

theorem hasExplicitName_of_explicit (hp : m.params[position]? = some p)
    (hvalue : p.kind.isSpecial = false) (hname : p.explicitName = some name) :
    (ofSignature m useActual).hasExplicitName = true := by
  refine List.any_eq_true.2 ⟨p, List.mem_of_getElem? hp, ?_⟩
  rw [hvalue, hname]
  rfl

/-- No other parameter goes by an explicit name later on, unless by a name that it was given
implicitly. -/
theorem not_mem_later (hdistinct : m.explicitNames.Nodup) (hp : m.params[position]? = some p)
    (hvalue : p.kind.isSpecial = false) (hname : p.explicitName = some name)
    (himplicit : ∀ later q, position < later → m.params[later]? = some q →
      q.explicitName = none → (later, name) ∉ (ofSignature m useActual).names)
    (later : Nat) (hlater : position < later) :
    (later, name) ∉ (ofSignature m useActual).names := by
  intro hmem
  obtain ⟨i, q, hq, hqvalue, hi, hqname⟩ := mem_assign.1 hmem
  obtain rfl : later = i := by omega
  cases hexplicit : q.explicitName with
  | none => exact himplicit later q hlater hq hexplicit hmem
  | some other =>
    rw [nameOf_of_explicit hexplicit] at hqname
    exact MethodSignature.ne_of_explicit hdistinct hlater hp hq hvalue hqvalue hname
      (hqname ▸ hexplicit)

/-- Arguments of the declared kinds are bound to a map if some name is explicit. Under each explicit
name stands the argument of the last parameter that goes by it: its own argument, unless a later
parameter has been given that name implicitly. -/
theorem explicit_name_holds_last_argument (htakes : m.Takes args)
    (hdistinct : m.explicitNames.Nodup) (hp : m.params[position]? = some p)
    (hvalue : p.kind = .value) (hname : p.explicitName = some name) (useActual : Bool) :
    let names := (ofSignature m useActual).names
    ∃ entries, (ofSignature m useActual).bind args = .ok (.map entries) ∧
      (∀ last v, (last, name) ∈ names → (∀ later, last < later → (later, name) ∉ names) →
        args[last]? = some (.value v) → entries.lookup name = some v) ∧
      ((∀ later q, position < later → m.params[later]? = some q → q.explicitName = none →
          (later, name) ∉ names) →
        ∃ v, args[position]? = some (.value v) ∧ entries.lookup name = some v) := by
  intro names
  have hspecial : p.kind.isSpecial = false := by
    rw [hvalue]
    rfl
  have hmem : (position, name) ∈ names := mem_names_of_explicit hp hspecial hname
  obtain ⟨entries, hentries, hlookup⟩ := lookup_bindFrom (n := ofSignature m useActual) 0 names []
    (exists_value_of_mem htakes useActual)
  have hsorted : names.Pairwise fun a b => a.1 < b.1 := pairwise_assign _ _ _ _
  have hlast : ∀ last v, (last, name) ∈ names →
      (∀ later, last < later → (later, name) ∉ names) → args[last]? = some (.value v) →
      entries.lookup name = some v := by
    intro last v hlast hlater hv
    rw [hlookup name (List.mem_map_of_mem hlast),
      lookup_given hsorted hlast hlater hv]
    rfl
  refine ⟨entries, ?_, hlast, fun himplicit => ?_⟩
  · rw [bind_of_explicit (hasExplicitName_of_explicit hp hspecial hname) hmem]
    exact congrArg (Except.map Value.map) hentries
  · obtain ⟨v, hv⟩ := htakes.exists_value hp hspecial
    exact ⟨v, hv, hlast position v hmem
      (not_mem_later hdistinct hp hspecial hname himplicit) hv⟩

/-- Special parameters and aliases do not come in the way of an explicit name. -/
theorem explicit_name_beside_aliases :
    let m : MethodSignature :=
      { name := "find", params := [.unnamed, .rowBounds, .named "param1"], returns := .many }
    let args : List Arg := [.value (.int 1), .bounds .all, .value (.int 2)]
    m.Takes args ∧ m.explicitNames.Nodup ∧
      ∃ entries, (ofSignature m true).bind args = .ok (.map entries) ∧
        entries.lookup "param1" = some (.int 2) := by
  intro m args
  have htakes : m.Takes args := rfl
  have hdistinct : m.explicitNames.Nodup := by decide
  have hparam : m.params[2]? = some (.named "param1") := rfl
  have hname : (ParamSpec.named "param1").explicitName = some "param1" := rfl
  obtain ⟨entries, hbind, -, hown⟩ :=
    explicit_name_holds_last_argument htakes hdistinct hparam rfl hname true
  obtain ⟨v, hv, hlookup⟩ := hown fun later q hlater hq => by
    have hlength : later < 3 := (List.getElem?_eq_some_iff.1 hq).1
    omega
  cases hv
  exact ⟨htakes, hdistinct, entries, hbind, hlookup⟩

/-- The number of a later parameter is entered over an explicit name. -/
theorem explicit_name_is_overwritten :
    let m : MethodSignature :=
      { name := "find", params := [.named "1", .unnamed], returns := .many }
    let args : List Arg := [.value (.text "a"), .value (.text "b")]
    m.Takes args ∧ m.explicitNames.Nodup ∧
      ((ofSignature m true).bind args).map (Value.get? · "1") = .ok (some (.text "b")) := by
  decide +kernel

end ParamNames

end DataMapper
