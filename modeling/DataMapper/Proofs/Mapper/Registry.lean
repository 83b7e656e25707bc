import DataMapper.Mapper.Registry
import DataMapper.Proofs.Mapper.WellFormed
import DataMapper.Proofs.Table
import Mathlib.Data.List.Nodup
/-!
# Registration of mappers

Types may share a name, come again or bring interfaces that make no sense. In whatever order they
come, the registry knows those that it has accepted and no others, and types and interface names
lead to the same factories, one to each.
-/

namespace DataMapper

/-! ## Calls in turn -/

section InTurn

variable {ε σ α : Type}

/-- Makes calls one after the other, whether or not they fail. Answers with those that succeed, and
the state after them. -/
def inTurn (call : α → EStateM ε σ Unit) (s : σ) : List α → List α × σ
  | [] => ([], s)
  | a :: rest =>
    match (call a).run s with
    | .ok () s => (a :: (inTurn call s rest).1, (inTurn call s rest).2)
    | .error _ s => inTurn call s rest

/-- What calls keep of the state, and of those before them that have succeeded, holds after all of
them. -/
theorem inTurn_keeps {call : α → EStateM ε σ Unit} {I : List α → σ → Prop}
    (hok : ∀ done s a s', I done s → (call a).run s = .ok () s' → I (done ++ [a]) s')
    (herror : ∀ done s a e s', I done s → (call a).run s = .error e s' → I done s')
    {done : List α} {s : σ} (h : I done s) (calls : List α) :
    I (done ++ (inTurn call s calls).1) (inTurn call s calls).2 := by
  induction calls generalizing done s with
  | nil =>
    unfold inTurn
    rwa [List.append_nil]
  | cons a rest ih =>
    unfold inTurn
    cases hcall : (call a).run s with
    | ok u s' =>
      have hrest := ih (hok done s a s' h hcall)
      rwa [List.append_assoc] at hrest
    | error e s' => exact ih (herror done s a e s' h hcall)

end InTurn

namespace MapperRegistry

/-! ## Registration in place -/

/-- Registers a type, with one check and one write after the other. What is written stays, even if
something fails later. -/
def enter (t : MapperType) : EStateM BindingError MapperRegistry Unit := do
  if (← get).known.contains t.type.id then throw (.duplicateMapper t.type.name)
  if (← get).typeOf.contains t.interface.name then throw (.duplicateMapper t.interface.name)
  if let .error e := t.interface.validate then throw e
  modify fun r => { r with typeOf := r.typeOf.insert t.interface.name t.type }
  modify fun r => { r with known := r.known.insert t.type.id { interface := t.interface } }

variable {r r' : MapperRegistry} {accepted : List MapperType} {t : MapperType}

/-- No check comes after a write. -/
theorem run_enter (r : MapperRegistry) (t : MapperType) :
    (enter t).run r =
      match r.add t with
      | .error e => .error e r
      | .ok r' => .ok () r' := by
  unfold enter add
  cases hknown : r.known.contains t.type.id with
  | true => simp [hknown]
  | false =>
    cases hnamed : r.typeOf.contains t.interface.name with
    | true => simp [hknown, hnamed]
    | false =>
      cases hvalid : t.interface.validate with
      | error e => simp [hknown, hnamed]
      | ok u => simp [hknown, hnamed]

theorem eq_of_enter_error {e : BindingError} (h : (enter t).run r = .error e r') : r' = r := by
  rw [run_enter] at h
  cases hadd : r.add t with
  | error e' =>
    rw [hadd] at h
    exact (EStateM.Result.error.inj h).2.symm
  | ok added =>
    rw [hadd] at h
    cases h

theorem enter_eq_ok_iff :
    (enter t).run r = .ok () r' ↔
      r.known.get? t.type.id = none ∧ r.typeOf.get? t.interface.name = none ∧
        t.interface.WellFormed ∧
        r' = { known := r.known.insert t.type.id { interface := t.interface }
               typeOf := r.typeOf.insert t.interface.name t.type } := by
  have hknown : r.known.contains t.type.id = false ↔ r.known.get? t.type.id = none :=
    Option.isSome_eq_false_iff.trans Option.isNone_iff_eq_none
  have hnamed :
      r.typeOf.contains t.interface.name = false ↔ r.typeOf.get? t.interface.name = none :=
    Option.isSome_eq_false_iff.trans Option.isNone_iff_eq_none
  rw [run_enter, ← hknown, ← hnamed, ← t.interface.validate_eq_ok_iff]
  unfold add
  cases r.known.contains t.type.id with
  | true => simp
  | false =>
    cases r.typeOf.contains t.interface.name with
    | true => simp
    | false =>
      cases t.interface.validate with
      | error e => simp
      | ok u => simp [eq_comm]

theorem factory_eq_ok_iff {type : TypeRef} {f : MapperFactory} :
    r.factory type = .ok f ↔ r.known.get? type.id = some f := by
  unfold factory
  cases r.known.get? type.id with
  | none => simp
  | some f' => simp

/-! ## What a registry knows -/

/-- The registry knows these types, which are told apart by their ids and by the names of their
interfaces. -/
structure Knows (r : MapperRegistry) (accepted : List MapperType) : Prop where
  ids : (accepted.map fun t => t.type.id).Nodup
  names : (accepted.map fun t => t.interface.name).Nodup
  wellFormed : ∀ t ∈ accepted, t.interface.WellFormed
  known : ∀ id f, r.known.get? id = some f ↔
    ∃ t ∈ accepted, t.type.id = id ∧ f = { interface := t.interface }
  typeOf : ∀ name type, r.typeOf.get? name = some type ↔
    ∃ t ∈ accepted, t.interface.name = name ∧ t.type = type

theorem knows_empty : empty.Knows [] where
  ids := List.nodup_nil
  names := List.nodup_nil
  wellFormed := fun _ ht => (List.not_mem_nil ht).elim
  known := by simp [empty]
  typeOf := by simp [empty]

namespace Knows

theorem eq_of_id (h : r.Knows accepted) {t t' : MapperType} (ht : t ∈ accepted)
    (ht' : t' ∈ accepted) (heq : t.type.id = t'.type.id) : t = t' :=
  List.inj_on_of_nodup_map h.ids ht ht' heq

theorem eq_of_name (h : r.Knows accepted) {t t' : MapperType} (ht : t ∈ accepted)
    (ht' : t' ∈ accepted) (heq : t.interface.name = t'.interface.name) : t = t' :=
  List.inj_on_of_nodup_map h.names ht ht' heq

theorem get?_known_eq_none_iff (h : r.Knows accepted) (id : Nat) :
    r.known.get? id = none ↔ ∀ t ∈ accepted, t.type.id ≠ id := by
  rw [Option.eq_none_iff_forall_ne_some]
  constructor
  · intro hnone t ht hid
    exact hnone _ ((h.known id _).2 ⟨t, ht, hid, rfl⟩)
  · intro hall f hf
    obtain ⟨t, ht, hid, -⟩ := (h.known id f).1 hf
    exact hall t ht hid

theorem get?_typeOf_eq_none_iff (h : r.Knows accepted) (name : String) :
    r.typeOf.get? name = none ↔ ∀ t ∈ accepted, t.interface.name ≠ name := by
  rw [Option.eq_none_iff_forall_ne_some]
  constructor
  · intro hnone t ht hname
    exact hnone _ ((h.typeOf name _).2 ⟨t, ht, hname, rfl⟩)
  · intro hall type htype
    obtain ⟨t, ht, hname, -⟩ := (h.typeOf name type).1 htype
    exact hall t ht hname

/-- What is accepted is known from then on, beside all that was known before. -/
theorem enter (h : r.Knows accepted) (henter : (enter t).run r = .ok () r') :
    r'.Knows (accepted ++ [t]) := by
  obtain ⟨hknown, hnamed, hwf, rfl⟩ := enter_eq_ok_iff.1 henter
  have hids := (h.get?_known_eq_none_iff _).1 hknown
  have hnames := (h.get?_typeOf_eq_none_iff _).1 hnamed
  have hexists : ∀ P : MapperType → Prop,
      (∃ t' ∈ accepted ++ [t], P t') ↔ (∃ t' ∈ accepted, P t') ∨ P t := by
    simp [or_and_right, exists_or]
  refine ⟨?_, ?_, ?_, fun id f => ?_, fun name type => ?_⟩
  · rw [List.map_append, List.nodup_append]
    refine ⟨h.ids, List.nodup_singleton _, ?_⟩
    simpa using hids
  · rw [List.map_append, List.nodup_append]
    refine ⟨h.names, List.nodup_singleton _, ?_⟩
    simpa using hnames
  · intro t' ht'
    rcases List.mem_append.1 ht' with ht' | ht'
    · exact h.wellFormed t' ht'
    · exact List.mem_singleton.1 ht' ▸ hwf
  · dsimp only
    rw [hexists, ← h.known, Table.get?_insert]
    by_cases hid : id = t.type.id
    · subst hid
      simp [hknown, eq_comm]
    · simp [hid, Ne.symm hid]
  · dsimp only
    rw [hexists, ← h.typeOf, NameMap.get?_insert]
    by_cases hname : name = t.interface.name
    · subst hname
      simp [hnamed]
    · simp [hname, Ne.symm hname]

theorem inTurn (calls : List MapperType) :
    (inTurn MapperRegistry.enter .empty calls).2.Knows
      (inTurn MapperRegistry.enter .empty calls).1 :=
  inTurn_keeps (I := fun accepted r => r.Knows accepted)
    (fun _ _ _ _ h henter => h.enter henter)
    (fun _ _ _ _ _ h henter => eq_of_enter_error henter ▸ h) knows_empty calls

/-! ## Lookup by type and by name -/

theorem factory_eq_ok_iff (h : r.Knows accepted) (type : TypeRef) (f : MapperFactory) :
    r.factory type = .ok f ↔
      ∃ t ∈ accepted, t.type.id = type.id ∧ f = { interface := t.interface } := by
  rw [MapperRegistry.factory_eq_ok_iff, h.known]

theorem factoryNamed_eq_ok_iff (h : r.Knows accepted) (name : String) (f : MapperFactory) :
    r.factoryNamed name = .ok f ↔
      ∃ t ∈ accepted, t.interface.name = name ∧ f = { interface := t.interface } := by
  have hget : r.factoryNamed name = .ok f ↔
      ∃ type, r.typeOf.get? name = some type ∧ r.known.get? type.id = some f := by
    unfold factoryNamed
    cases r.typeOf.get? name with
    | none => simp
    | some type =>
      cases hf : r.known.get? type.id with
      | none => simp [hf]
      | some f' => simp [hf]
  rw [hget]
  constructor
  · rintro ⟨type, htype, hf⟩
    obtain ⟨t, ht, hname, rfl⟩ := (h.typeOf name type).1 htype
    obtain ⟨t', ht', hid, rfl⟩ := (h.known t.type.id f).1 hf
    obtain rfl := h.eq_of_id ht' ht hid
    exact ⟨t', ht', hname, rfl⟩
  · rintro ⟨t, ht, hname, rfl⟩
    exact ⟨t.type, (h.typeOf name t.type).2 ⟨t, ht, hname, rfl⟩,
      (h.known t.type.id _).2 ⟨t, ht, rfl, rfl⟩⟩

theorem typeNamed_eq_ok_iff (h : r.Knows accepted) (name : String) (type : TypeRef) :
    r.typeNamed name = .ok type ↔ ∃ t ∈ accepted, t.interface.name = name ∧ t.type = type := by
  rw [← h.typeOf]
  unfold typeNamed
  cases htype : r.typeOf.get? name with
  | none => simp
  | some type' =>
    obtain ⟨t, ht, -, rfl⟩ := (h.typeOf name type').1 htype
    have hknown : r.known.contains t.type.id = true :=
      Option.isSome_iff_exists.2 ⟨_, (h.known _ _).2 ⟨t, ht, rfl, rfl⟩⟩
    simp [hknown]

theorem contains_iff (h : r.Knows accepted) (type : TypeRef) :
    r.contains type = true ↔ ∃ t ∈ accepted, t.type.id = type.id := by
  unfold MapperRegistry.contains Table.contains
  rw [Option.isSome_iff_exists]
  simp only [h.known]
  constructor
  · rintro ⟨f, t, ht, hid, -⟩
    exact ⟨t, ht, hid⟩
  · rintro ⟨t, ht, hid⟩
    exact ⟨_, t, ht, hid, rfl⟩

theorem mem_names_iff (h : r.Knows accepted) (name : String) :
    name ∈ r.names ↔ ∃ t ∈ accepted, t.interface.name = name := by
  unfold MapperRegistry.names
  rw [NameMap.mem_names]
  simp only [h.typeOf]
  constructor
  · rintro ⟨type, t, ht, hname, -⟩
    exact ⟨t, ht, hname⟩
  · rintro ⟨t, ht, hname⟩
    exact ⟨_, t, ht, hname, rfl⟩

theorem enter_succeeds_iff (h : r.Knows accepted) (t : MapperType) :
    (∃ r', (MapperRegistry.enter t).run r = .ok () r') ↔
      ¬ r.contains t.type = true ∧ t.interface.name ∉ r.names ∧ t.interface.WellFormed := by
  rw [h.contains_iff, h.mem_names_iff]
  simp only [enter_eq_ok_iff, h.get?_known_eq_none_iff, h.get?_typeOf_eq_none_iff]
  constructor
  · rintro ⟨r', hids, hnames, hwf, -⟩
    exact ⟨fun ⟨t', ht', hid⟩ => hids t' ht' hid, fun ⟨t', ht', hname⟩ => hnames t' ht' hname, hwf⟩
  · rintro ⟨hids, hnames, hwf⟩
    exact ⟨_, fun t' ht' hid => hids ⟨t', ht', hid⟩, fun t' ht' hname => hnames ⟨t', ht', hname⟩,
      hwf, rfl⟩

end Knows

/-- What the registry does, once it has accepted these types. -/
structure Registers (r : MapperRegistry) (accepted : List MapperType) : Prop where
  /-- Nothing but what was accepted is known. -/
  contains : ∀ type, r.contains type = true ↔ ∃ t ∈ accepted, t.type.id = type.id
  names : ∀ name, name ∈ r.names ↔ ∃ t ∈ accepted, t.interface.name = name
  succeeds : ∀ t, (∃ r', (enter t).run r = .ok () r') ↔
    ¬ r.contains t.type = true ∧ t.interface.name ∉ r.names ∧ t.interface.WellFormed
  failed : ∀ t e r', (enter t).run r = .error e r' → r' = r
  /-- A type leads to the factory of the interface that it came with. -/
  byType : ∀ type f, r.factory type = .ok f ↔
    ∃ t ∈ accepted, t.type.id = type.id ∧ f = { interface := t.interface }
  /-- The name of a factory's interface leads to the factory, and so does one type. -/
  byName : ∀ name f, r.factoryNamed name = .ok f ↔
    f.interface.name = name ∧ ∃ type, r.factory type = .ok f
  oneType : ∀ type type' f f', r.factory type = .ok f → r.factory type' = .ok f' →
    f.interface.name = f'.interface.name → type.id = type'.id
  typeNamed : ∀ name type, r.typeNamed name = .ok type ↔
    ∃ t ∈ accepted, t.interface.name = name ∧ t.type = type
  finds : ∀ type f, r.factory type = .ok f →
    ∀ m ∈ f.interface.methods, f.interface.findMethod? m.name = some m

/-- Whatever is registered, types and interface names are in one-to-one correspondence. -/
theorem types_correspond_to_names (calls : List MapperType) :
    (inTurn enter empty calls).2.Registers (inTurn enter empty calls).1 := by
  have h := Knows.inTurn calls
  refine ⟨h.contains_iff, h.mem_names_iff, h.enter_succeeds_iff, fun _ _ _ => eq_of_enter_error,
    h.factory_eq_ok_iff, fun name f => ?_, fun type type' f f' hf hf' hname => ?_,
    h.typeNamed_eq_ok_iff, fun type f hf m hm => ?_⟩
  · simp only [h.factoryNamed_eq_ok_iff, h.factory_eq_ok_iff]
    constructor
    · rintro ⟨t, ht, rfl, rfl⟩
      exact ⟨rfl, t.type, t, ht, rfl, rfl⟩
    · rintro ⟨hname, type, t, ht, -, rfl⟩
      exact ⟨t, ht, hname, rfl⟩
  · obtain ⟨t, ht, hid, rfl⟩ := (h.factory_eq_ok_iff type f).1 hf
    obtain ⟨t', ht', hid', rfl⟩ := (h.factory_eq_ok_iff type' f').1 hf'
    obtain rfl := h.eq_of_name ht ht' hname
    exact hid.symm.trans hid'
  · obtain ⟨t, ht, -, rfl⟩ := (h.factory_eq_ok_iff type f).1 hf
    exact (h.wellFormed t ht).findMethod?_eq hm

/-- Types may have one name, interfaces may not, and what was refused leaves its type free. -/
example :
    let mapper (id : Nat) (interface : String) : MapperType :=
      { type := ⟨id, "Mapper"⟩, interface := { name := interface } }
    let accepted := (inTurn enter empty
      [mapper 1 "", mapper 1 "a", mapper 2 "a", mapper 2 "b", mapper 1 "c"]).1
    accepted.map (fun t => (t.type.id, t.interface.name)) = [(1, "a"), (2, "b")] := by
  decide +kernel

end MapperRegistry

end DataMapper
