import DataMapper.Proofs.Configuration
import DataMapper.Proofs.Session.Errors
import DataMapper.Proofs.System.Mappers
/-!
# Regions of a configuration in use

However a configuration is put together, an id stands for one region in it. Every unit of work over
it so meets one region under each id only, and no session ever turns a region away.
-/

namespace DataMapper

/-- The id of the region stands for the region itself. -/
def Catalog.Owns (c : Catalog) (r : RegionRef) : Prop :=
  c.region? r.id = some r

/-- Each view is of the region that its id stands for. -/
def UnitOfWork.Views (c : Catalog) (u : UnitOfWork) : Prop :=
  ∀ id v, u.views.get? id = some v → c.region? id = some v.region

namespace UnitOfWork.Views

variable {c : Catalog} {u : UnitOfWork} {r : RegionRef} {v : Staged}

theorem empty (c : Catalog) : UnitOfWork.empty.Views c :=
  fun _ _ hv => by simp [UnitOfWork.empty] at hv

theorem region_of_get? (h : u.Views c) (hr : c.Owns r) (hv : u.views.get? r.id = some v) :
    v.region = r := by
  have hregion := h r.id v hv
  rw [hr] at hregion
  exact (Option.some.inj hregion).symm

theorem region_of_view? (h : u.Views c) (hr : c.Owns r) (hview : u.view? r = .ok v) :
    v.region = r := by
  unfold view? at hview
  cases hv : u.views.get? r.id with
  | none =>
    rw [hv] at hview
    exact congrArg Staged.region (Except.ok.inj hview).symm
  | some w =>
    rw [hv] at hview
    dsimp only at hview
    split_ifs at hview
    exact Except.ok.inj hview ▸ h.region_of_get? hr hv

theorem setView (h : u.Views c) (hr : c.Owns r) (hv : v.region = r) :
    (u.setView r v).Views c :=
  NameMap.forall_insert (by rwa [hv]) h

theorem custody (c : Catalog) :
    Custody (UnitOfWork.Views c) (fun _ => True) c.Owns (fun _ => True) fun _ _ _ => True where
  clear := fun hu hr _ hclear => by
    obtain ⟨v, hview, rfl⟩ := exists_of_modified hclear
    have hregion := hu.region_of_view? hr hview
    exact hu.setView hr hregion
  get := fun {u r} store key hu hr => by
    unfold UnitOfWork.get
    cases hview : u.view? r with
    | error e => exact hu
    | ok v => exact hu.setView hr (hu.region_of_view? hr hview)
  put := fun hu hr _ hput => by
    obtain ⟨v, hview, rfl⟩ := exists_of_modified hput
    have hregion := hu.region_of_view? hr hview
    exact hu.setView hr hregion
  rollbackAll := fun {u} hu id v hv => by
    unfold UnitOfWork.rollbackAll at hv
    rw [NameMap.get?_map] at hv
    obtain ⟨w, hw, rfl⟩ := Option.map_eq_some_iff.1 hv
    exact hu id w hw
  publishAll := fun _ _ => trivial
  sameEntries := fun _ _ => trivial

/-- No region is turned away by a unit of work that knows it under its id, or not at all. -/
theorem knows (c : Catalog) : UnitOfWork.Knows (UnitOfWork.Views c) c.Owns False := by
  intro u r e hu hr hview
  unfold view? at hview
  cases hv : u.views.get? r.id with
  | none =>
    rw [hv] at hview
    cases hview
  | some w =>
    have hbacked : w.isBackedBy r = true := by
      unfold Staged.isBackedBy
      rw [hu.region_of_get? hr hv]
      exact decide_eq_true rfl
    rw [hv] at hview
    dsimp only at hview
    rw [if_pos hbacked] at hview
    cases hview

end UnitOfWork.Views

namespace Catalog.Settled

variable {c : Catalog}

theorem on (h : c.Settled) (id : String) (statement : MappedStatement)
    (hfound : c.statement id = .ok statement) : statement.On c.Owns fun _ => True := by
  unfold Catalog.statement at hfound
  cases hget : c.statements.get? id with
  | none =>
    rw [hget] at hfound
    cases hfound
  | some known =>
    rw [hget] at hfound
    cases hfound
    exact fun r hr => ⟨(h.statements id statement hget).2 r hr, fun _ => trivial⟩

/-- The units of work of all sessions know regions by their ids only. -/
theorem keeps (h : c.Settled) :
    c.Keeps (fun _ => True) fun session => session.executor.Every (UnitOfWork.Views c) where
  resolved := fun _ _ => trivial
  opened := fun autoCommit => by
    unfold System.newExecutor
    dsimp only
    split_ifs
    · exact ⟨UnitOfWork.Views.empty c, trivial⟩
    · trivial
  called := fun hsession => Session.every_perform (UnitOfWork.Views.custody c) h.on hsession

end Catalog.Settled

namespace System

variable {s : System}

/-- While all units of work know regions by their ids, no action turns a region away. -/
theorem not_duplicate_of_reported? (hcatalog : s.configuration.toCatalog.Settled)
    (hs : s.Upholds (fun _ => True) fun session =>
      session.executor.Every (UnitOfWork.Views s.configuration.toCatalog))
    (action : Action) (region : String) :
    s.reported? action ≠ some (.cache (.duplicateRegion region)) := by
  intro hreported
  have hperform : ∀ {session : Session} {shared : Shared} {call : SessionCall},
      session.executor.Every (UnitOfWork.Views s.configuration.toCatalog) →
      (session.perform s.configuration.toCatalog shared call).1 ≠
        .error (.error (.cache (.duplicateRegion region))) :=
    fun hsession => Session.not_duplicate_of_perform (UnitOfWork.Views.custody _)
      (UnitOfWork.Views.knows _) hcatalog.on hsession region
  cases action with
  | event event =>
    rcases error_of_event hreported with he | ⟨a, session, call, hsession, hfailed⟩
    · cases he
    · exact hperform (hs.sessions a session hsession) hfailed
  | invoke proxy method args room =>
    obtain ⟨answer, hinvoke, he⟩ := Option.bind_eq_some_iff.1 hreported
    obtain ⟨outcome, s'⟩ := answer
    have hfailed := Outcome.eq_of_error? he
    cases invokes_of_invoke hinvoke with
    | unknown => cases hfailed
    | @dispatched factory session _ st hfactory hsession hdispatch =>
      have hdispatched := hdispatch ▸ MapperState.dispatched_invoke s.configuration.toCatalog
        proxy room method args ⟨factory, session, s.shared⟩
      cases hdispatched.raises _ hfailed with
      | own hown => cases hown
      | call hleads hcall =>
        have hafter := Upholds.leads hcatalog.keeps hleads ⟨trivial, hs.sessions _ _ hsession⟩
        exact hperform hafter.2 hcall

end System

/-! ## Configurations -/

/-- What holds of a configuration that has accepted these registrations. -/
structure Configuration.KnowsRegionsById (accepted : List Registration) (c : Configuration) :
    Prop where
  /-- A registration that fails leaves the configuration as it was. -/
  failed : ∀ registration e c', (enter registration).run c = .error e c' → c' = c
  acceptsStatement : ∀ statement, (∃ c', (enter (.statement statement)).run c = .ok () c') ↔
    c.hasStatement statement.id = false ∧
      ∀ r, statement.cache = some r → c.region? r.id = none ∨ c.region? r.id = some r
  acceptsRegion : ∀ r, (∃ c', (enter (.region r)).run c = .ok () c') ↔ c.region? r.id = none
  /-- No statement that was ever accepted has been replaced or removed. -/
  kept : ∀ statement, .statement statement ∈ accepted → c.statement statement.id = .ok statement
  /-- The region of a statement is the one registered under its id. -/
  own : ∀ id statement r, c.statement id = .ok statement → statement.cache = some r →
    c.region? r.id = some r
  /-- No session over the configuration turns a region away, whatever becomes of the others. -/
  sessions : ∀ s : System, s.configuration = c → s.sessions = .empty →
    ∀ actions action region,
      (s.acted actions).reported? action ≠ some (.cache (.duplicateRegion region))

/-- However statements and regions are registered, one id stands for one region ever after. -/
theorem Configuration.regions_are_known_by_id (settings : Settings)
    (registrations : List Registration) :
    KnowsRegionsById (inTurn enter (ofSettings settings) registrations).1
      (inTurn enter (ofSettings settings) registrations).2 := by
  have hfinds := finds_inTurn settings registrations
  generalize inTurn enter (ofSettings settings) registrations = answer at hfinds
  obtain ⟨accepted, c⟩ := answer
  have hsettled : c.toCatalog.Settled := hfinds.settled
  refine ⟨fun _ _ _ => eq_of_enter_error, enter_statement_succeeds_iff hsettled,
    enter_region_succeeds_iff, fun statement hmem => ?_, fun id statement r hfound hcache => ?_,
    fun s hconfiguration hsessions actions action region => ?_⟩
  · unfold Catalog.statement
    rw [hfinds.statements statement hmem]
  · exact (hsettled.on id statement hfound r hcache).1
  · subst hconfiguration
    have hstart : s.Upholds (fun _ => True) fun session =>
        session.executor.Every (UnitOfWork.Views s.configuration.toCatalog) := by
      refine ⟨fun _ _ _ => trivial, fun _ _ => trivial, fun id session hsession => ?_⟩
      rw [hsessions, Table.get?_empty] at hsession
      cases hsession
    have hcatalog := s.catalog_acted actions
    have hafter := hstart.acted hsettled.keeps actions
    rw [← hcatalog] at hsettled hafter
    exact System.not_duplicate_of_reported? hsettled hafter action region

end DataMapper
