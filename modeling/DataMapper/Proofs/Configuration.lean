import DataMapper.Configuration
import DataMapper.Proofs.Mapper.Registry
/-!
# Putting configurations together

Statements, regions and mappers may be added in any order, some of them more than once, and regions
may share ids or be shared by statements. What is refused changes nothing, and what is accepted
stays: the region of every statement is the one that its id stands for.
-/

namespace DataMapper

theorem exists_of_map_eq_ok {ε α β : Type} {f : α → β} {result : Except ε α} {b : β}
    (h : result.map f = .ok b) : ∃ a, result = .ok a ∧ b = f a := by
  cases result with
  | error e => cases h
  | ok a => exact ⟨a, rfl, (Except.ok.inj h).symm⟩

theorem RegionRef.ext {r r' : RegionRef} (hslot : r.slot = r'.slot) (hid : r.id = r'.id) :
    r = r' := by
  cases r
  cases r'
  rw [RegionRef.mk.injEq]
  exact ⟨hslot, hid⟩

/-- A call that adds something to a configuration. -/
inductive Registration where
  | statement (statement : MappedStatement)
  | region (region : RegionRef)
  | mapper (type : MapperType)

namespace Configuration

variable {c c' : Configuration} {registration : Registration}

/-! ## Registration in place -/

/-- Adds a statement, with one check and one write after the other. What is written stays, even if
something fails later. -/
def enterStatement (statement : MappedStatement) : EStateM Error Configuration Unit := do
  if (← get).statements.contains statement.id then
    throw (.binding (.duplicateStatement statement.id))
  if let some region := statement.cache then
    match (← get).regions.get? region.id with
    | some known =>
      if known.slot ≠ region.slot then throw (.cache (.duplicateRegion region.id))
    | none => modify fun c => { c with regions := c.regions.insert region.id region }
  modify fun c => { c with statements := c.statements.insert statement.id statement }

def enterRegion (region : RegionRef) : EStateM Error Configuration Unit := do
  if (← get).regions.contains region.id then throw (.cache (.duplicateRegion region.id))
  modify fun c => { c with regions := c.regions.insert region.id region }

def enterMapper (t : MapperType) : EStateM Error Configuration Unit := fun c =>
  match (MapperRegistry.enter t).run c.mappers with
  | .ok () mappers => .ok () { c with mappers }
  | .error e mappers => .error (.binding e) { c with mappers }

def enter : Registration → EStateM Error Configuration Unit
  | .statement statement => enterStatement statement
  | .region region => enterRegion region
  | .mapper type => enterMapper type

/-- Adds something at once. -/
def add (c : Configuration) : Registration → Except Error Configuration
  | .statement statement => c.addStatement statement
  | .region region => c.addRegion region
  | .mapper type => c.addMapper type

/-- No check comes after a write. -/
theorem run_enter (registration : Registration) (c : Configuration) :
    (enter registration).run c =
      match c.add registration with
      | .error e => .error e c
      | .ok c' => .ok () c' := by
  cases registration with
  | statement statement =>
    unfold enter enterStatement add addStatement Catalog.addStatement Catalog.regionsWith?
    cases hknown : c.statements.contains statement.id with
    | true => simp [hknown, Except.map]
    | false =>
      cases hcache : statement.cache with
      | none => simp [hknown, hcache, Except.map]
      | some region =>
        cases hregion : c.regions.get? region.id with
        | none => simp [hknown, hcache, hregion, Except.map]
        | some known =>
          by_cases hslot : known.slot = region.slot
          · simp [hknown, hcache, hregion, hslot, Except.map]
          · simp [hknown, hcache, hregion, hslot, Except.map]
  | region region =>
    unfold enter enterRegion add addRegion Catalog.addRegion
    cases hknown : c.regions.contains region.id with
    | true => simp [hknown, Except.map]
    | false => simp [hknown, Except.map]
  | mapper t =>
    have hrun := MapperRegistry.run_enter c.mappers t
    rw [EStateM.run]
    unfold enter enterMapper add addMapper
    dsimp only
    rw [hrun]
    cases c.mappers.add t <;> rfl

theorem eq_of_enter_error {e : Error} (h : (enter registration).run c = .error e c') : c' = c := by
  rw [run_enter] at h
  cases hadd : c.add registration with
  | error e' =>
    rw [hadd] at h
    exact (EStateM.Result.error.inj h).2.symm
  | ok added =>
    rw [hadd] at h
    cases h

theorem add_of_enter (h : (enter registration).run c = .ok () c') :
    c.add registration = .ok c' := by
  rw [run_enter] at h
  cases hadd : c.add registration with
  | error e =>
    rw [hadd] at h
    cases h
  | ok added =>
    rw [hadd] at h
    exact congrArg Except.ok (EStateM.Result.ok.inj h).2

end Configuration

/-! ## Regions of statements -/

namespace Catalog

variable {c c' : Catalog} {statement : MappedStatement} {region : RegionRef}

/-- Statements and regions are found under their own ids, and so is the region of every statement:
the very one, and no other one of that id. -/
structure Settled (c : Catalog) : Prop where
  regions : ∀ id r, c.regions.get? id = some r → r.id = id
  statements : ∀ id statement, c.statements.get? id = some statement →
    statement.id = id ∧ ∀ r, statement.cache = some r → c.regions.get? r.id = some r

theorem settled_ofSettings (settings : Settings) : Settled { settings } where
  regions := by simp
  statements := by simp

/-- More regions may be known, each under its own id. -/
structure MoreRegions (regions regions' : NameMap RegionRef) : Prop where
  kept : ∀ id r, regions.get? id = some r → regions'.get? id = some r
  keyed : (∀ id r, regions.get? id = some r → r.id = id) →
    ∀ id r, regions'.get? id = some r → r.id = id

theorem moreRegions_insert {regions : NameMap RegionRef} (h : regions.get? region.id = none) :
    MoreRegions regions (regions.insert region.id region) := by
  exact ⟨fun _ _ hr => NameMap.get?_insert_of_new region h hr,
    fun hkeyed => NameMap.forall_insert rfl hkeyed⟩

/-- A statement's region is entered if its id is new, and is the known one otherwise. -/
theorem moreRegions_of_regionsWith? (hc : c.Settled) {regions : NameMap RegionRef}
    (h : c.regionsWith? statement = .ok regions) :
    MoreRegions c.regions regions ∧
      ∀ r, statement.cache = some r → regions.get? r.id = some r := by
  have hsame : MoreRegions c.regions c.regions := ⟨fun _ _ hr => hr, id⟩
  unfold regionsWith? at h
  cases hcache : statement.cache with
  | none =>
    rw [hcache] at h
    cases h
    exact ⟨hsame, fun r hr => by cases hr⟩
  | some region =>
    rw [hcache] at h
    dsimp only at h
    cases hknown : c.regions.get? region.id with
    | none =>
      rw [hknown] at h
      cases h
      refine ⟨moreRegions_insert hknown, fun r hr => ?_⟩
      cases hr
      exact NameMap.get?_insert_self _ _ _
    | some known =>
      rw [hknown] at h
      dsimp only at h
      split_ifs at h with hslot
      cases h
      refine ⟨hsame, fun r hr => ?_⟩
      cases hr
      -- one object under one id
      have hid : known.id = region.id := hc.regions region.id known hknown
      rw [hknown, RegionRef.ext hslot hid]

theorem Settled.addStatement (hc : c.Settled) (h : c.addStatement statement = .ok c') :
    c'.Settled ∧ c'.statements.get? statement.id = some statement ∧
      ∀ id known, c.statements.get? id = some known → c'.statements.get? id = some known := by
  unfold Catalog.addStatement at h
  split_ifs at h with hknown
  have hnew : c.statements.get? statement.id = none := by
    simpa [NameMap.contains] using hknown
  cases hregions : c.regionsWith? statement with
  | error e =>
    rw [hregions] at h
    cases h
  | ok regions =>
    rw [hregions] at h
    obtain rfl := Except.ok.inj h
    obtain ⟨hmore, hown⟩ := moreRegions_of_regionsWith? hc hregions
    refine ⟨⟨hmore.keyed hc.regions, NameMap.forall_insert ⟨rfl, hown⟩ fun id known hget => ?_⟩,
      NameMap.get?_insert_self _ _ _,
      fun _ _ hget => NameMap.get?_insert_of_new statement hnew hget⟩
    obtain ⟨hkeyed, hcache⟩ := hc.statements id known hget
    exact ⟨hkeyed, fun r hr => hmore.kept r.id r (hcache r hr)⟩

theorem Settled.addRegion (hc : c.Settled) (h : c.addRegion region = .ok c') :
    c'.Settled ∧ c'.statements = c.statements := by
  unfold Catalog.addRegion at h
  split_ifs at h with hknown
  have hnew : c.regions.get? region.id = none := by
    simpa [NameMap.contains] using hknown
  obtain rfl := Except.ok.inj h
  have hmore := moreRegions_insert hnew
  refine ⟨⟨hmore.keyed hc.regions, fun id known hget => ?_⟩, rfl⟩
  obtain ⟨hkeyed, hcache⟩ := hc.statements id known hget
  exact ⟨hkeyed, fun r hr => hmore.kept r.id r (hcache r hr)⟩

end Catalog

namespace Configuration

variable {c c' : Configuration} {accepted : List Registration} {registration : Registration}

/-- A statement is accepted if its id is new, and the id of its region is new or stands for the very
region. -/
theorem enter_statement_succeeds_iff (hc : c.toCatalog.Settled) (statement : MappedStatement) :
    (∃ c', (enter (.statement statement)).run c = .ok () c') ↔
      c.hasStatement statement.id = false ∧
        ∀ r, statement.cache = some r → c.region? r.id = none ∨ c.region? r.id = some r := by
  have hsucceeds : (∃ c', (enter (.statement statement)).run c = .ok () c') ↔
      c.hasStatement statement.id = false ∧
        ∃ regions, c.regionsWith? statement = .ok regions := by
    rw [run_enter]
    unfold add addStatement Catalog.addStatement Catalog.hasStatement
    cases hknown : c.statements.contains statement.id with
    | true => simp [hknown, Except.map]
    | false =>
      cases hregions : c.regionsWith? statement with
      | error e => simp [hknown, hregions, Except.map]
      | ok regions => simp [hknown, hregions, Except.map]
  rw [hsucceeds]
  refine and_congr_right fun _ => ?_
  unfold Catalog.regionsWith? Catalog.region?
  cases hcache : statement.cache with
  | none => simp
  | some region =>
    cases hknown : c.regions.get? region.id with
    | none => simp [hknown]
    | some known =>
      have hid : known.id = region.id := hc.regions region.id known hknown
      have hsame : known.slot = region.slot ↔ known = region :=
        ⟨fun hslot => RegionRef.ext hslot hid, fun heq => heq ▸ rfl⟩
      by_cases hslot : known.slot = region.slot
      · simp [hknown, hsame.1 hslot]
      · simp [hknown, hslot, mt hsame.2 hslot]

theorem enter_region_succeeds_iff (r : RegionRef) :
    (∃ c', (enter (.region r)).run c = .ok () c') ↔ c.region? r.id = none := by
  rw [run_enter]
  unfold add addRegion Catalog.addRegion Catalog.region? NameMap.contains
  cases hknown : c.regions.get? r.id with
  | none => simp [hknown, Except.map]
  | some known => simp [hknown, Except.map]

theorem addMapper_eq_ok {t : MapperType} (h : c.addMapper t = .ok c') :
    ∃ mappers, c.mappers.add t = .ok mappers ∧ c' = { c with mappers } := by
  unfold addMapper at h
  cases hadd : c.mappers.add t with
  | error e =>
    rw [hadd] at h
    cases h
  | ok mappers =>
    rw [hadd] at h
    exact ⟨mappers, rfl, (Except.ok.inj h).symm⟩

/-- No factory has resolved anything yet. -/
def Fresh (c : Configuration) : Prop :=
  ∀ id f, c.mappers.known.get? id = some f → f = { interface := f.interface }

theorem Fresh.add (hc : c.Fresh) (h : c.add registration = .ok c') : c'.Fresh := by
  cases registration with
  | statement statement =>
    obtain ⟨catalog, -, rfl⟩ := exists_of_map_eq_ok h
    exact hc
  | region region =>
    obtain ⟨catalog, -, rfl⟩ := exists_of_map_eq_ok h
    exact hc
  | mapper t =>
    obtain ⟨mappers, hadd, rfl⟩ := addMapper_eq_ok h
    have henter : (MapperRegistry.enter t).run c.mappers = .ok () mappers := by
      rw [MapperRegistry.run_enter, hadd]
    obtain ⟨-, -, -, rfl⟩ := MapperRegistry.enter_eq_ok_iff.1 henter
    exact Table.forall_insert rfl hc

/-- Everything that was accepted as a statement is found. -/
structure Finds (accepted : List Registration) (c : Configuration) : Prop where
  settled : c.toCatalog.Settled
  fresh : c.Fresh
  statements : ∀ statement, .statement statement ∈ accepted →
    c.statements.get? statement.id = some statement

/-- What one addition does: it keeps the configuration settled, and all statements in it. -/
theorem settled_of_add (hc : c.toCatalog.Settled) (h : c.add registration = .ok c') :
    c'.toCatalog.Settled ∧
      (∀ id known, c.statements.get? id = some known → c'.statements.get? id = some known) ∧
        ∀ statement, registration = .statement statement →
          c'.statements.get? statement.id = some statement := by
  cases registration with
  | statement statement =>
    obtain ⟨catalog, hadd, rfl⟩ := exists_of_map_eq_ok h
    obtain ⟨hsettled, hfound, hkept⟩ := hc.addStatement hadd
    refine ⟨hsettled, hkept, fun statement' heq => ?_⟩
    cases heq
    exact hfound
  | region region =>
    obtain ⟨catalog, hadd, rfl⟩ := exists_of_map_eq_ok h
    obtain ⟨hsettled, hstatements⟩ := hc.addRegion hadd
    refine ⟨hsettled, fun id known hknown => ?_, nofun⟩
    exact (congrArg (NameMap.get? · id) hstatements).trans hknown
  | mapper t =>
    obtain ⟨mappers, -, rfl⟩ := addMapper_eq_ok h
    exact ⟨hc, fun _ _ hknown => hknown, nofun⟩

theorem Finds.enter (h : Finds accepted c) (henter : (enter registration).run c = .ok () c') :
    Finds (accepted ++ [registration]) c' := by
  obtain ⟨hsettled, hkept, hfound⟩ := settled_of_add h.settled (add_of_enter henter)
  refine ⟨hsettled, h.fresh.add (add_of_enter henter), fun statement hmem => ?_⟩
  rcases List.mem_append.1 hmem with hmem | hmem
  · exact hkept _ _ (h.statements statement hmem)
  · exact hfound statement (List.mem_singleton.1 hmem).symm

/-- Nothing that is added changes the settings. -/
theorem settings_of_add (h : c.add registration = .ok c') : c'.settings = c.settings := by
  cases registration with
  | statement statement =>
    obtain ⟨catalog, hadd, rfl⟩ := exists_of_map_eq_ok h
    unfold Catalog.addStatement at hadd
    split_ifs at hadd
    obtain ⟨regions, -, rfl⟩ := exists_of_map_eq_ok hadd
    rfl
  | region region =>
    obtain ⟨catalog, hadd, rfl⟩ := exists_of_map_eq_ok h
    unfold Catalog.addRegion at hadd
    split_ifs at hadd
    cases hadd
    rfl
  | mapper t =>
    obtain ⟨mappers, -, rfl⟩ := addMapper_eq_ok h
    rfl

theorem settings_inTurn (c : Configuration) (registrations : List Registration) :
    (inTurn enter c registrations).2.settings = c.settings := by
  induction registrations generalizing c with
  | nil => rfl
  | cons registration rest ih =>
    unfold inTurn
    cases henter : (enter registration).run c with
    | ok u c' => exact (ih c').trans (settings_of_add (add_of_enter henter))
    | error e c' =>
      obtain rfl := eq_of_enter_error henter
      exact ih c'

theorem finds_inTurn (settings : Settings) (registrations : List Registration) :
    Finds (inTurn Configuration.enter (ofSettings settings) registrations).1
      (inTurn Configuration.enter (ofSettings settings) registrations).2 :=
  inTurn_keeps (I := Finds) (fun _ _ _ _ h henter => h.enter henter)
    (fun _ _ _ _ _ h henter => eq_of_enter_error henter ▸ h)
    ⟨Catalog.settled_ofSettings settings, fun _ _ hf => (by cases hf),
      fun _ hmem => (List.not_mem_nil hmem).elim⟩
    registrations

end Configuration

end DataMapper
