import DataMapper.Proofs.Configuration
import DataMapper.Proofs.Mapper.Dispatch
import DataMapper.Proofs.System.Events
/-!
# Mappers in a run

Runs in which mappers, too, may be called at any time. What is true of all factories and of all
sessions stays true if resolving methods and calling sessions keep it.
-/

namespace DataMapper

/-- An event, or a call of a mapper with so much room for default bodies inside of each other. -/
inductive Action where
  | event (event : Event)
  | invoke (proxy : MapperProxy) (method : String) (args : List Arg) (room : Nat)

/-- The error of a call that fails with one. -/
def Outcome.error? {α : Type} : Outcome α → Option Error
  | .error (.error e) => some e
  | _ => none

def Reply.error? : Reply → Option Error
  | .refused e => some e
  | .answered outcome => outcome.error?
  | _ => none

theorem Outcome.eq_of_error? {α : Type} {outcome : Outcome α} {e : Error}
    (h : outcome.error? = some e) : outcome = .error (.error e) := by
  unfold error? at h
  split at h
  · rw [Option.some.inj h]
  · cases h

/-- Properties of factories and of sessions that outlast resolution and calls over a catalog. -/
structure Catalog.Keeps (catalog : Catalog) (F : MapperFactory → Prop) (S : Session → Prop) :
    Prop where
  resolved : ∀ {f : MapperFactory} {method : String}, F f → method ∉ objectMethods →
    F (f.invoker catalog method).2
  opened : ∀ autoCommit, S { executor := System.newExecutor catalog.settings, autoCommit }
  called : ∀ {session : Session} {shared : Shared} {call : SessionCall}, S session →
    S (session.perform catalog shared call).2.1

namespace System

/-- A system over a configuration that was put together by these registrations, with mappers beside
it. No session is open, and no method has been asked for. -/
def launched (settings : Settings) (registrations : List Registration)
    (interfaces : List MapperInterface) (shared : Shared) : System where
  configuration := (inTurn Configuration.enter (.ofSettings settings) registrations).2
  shared := shared
  standalone := interfaces.map fun interface => { interface }

def act (s : System) : Action → System
  | .event event => s.happen event
  | .invoke proxy method args room =>
    match s.invoke proxy method args room with
    | none => s
    | some (_, s) => s

/-- The system once all these actions were taken. -/
def acted (s : System) (actions : List Action) : System :=
  actions.foldl act s

/-- The error that an action is answered with, if it is. -/
def reported? (s : System) : Action → Option Error
  | .event (.step step) => (s.step step).1.error?
  | .event (.refuse _ _) => none
  | .invoke proxy method args room =>
    (s.invoke proxy method args room).bind fun answer => answer.1.error?

/-- All factories and all sessions have the properties. -/
structure Upholds (F : MapperFactory → Prop) (S : Session → Prop) (s : System) : Prop where
  registered : ∀ id f, s.configuration.mappers.known.get? id = some f → F f
  standalone : ∀ f ∈ s.standalone, F f
  sessions : ∀ id session, s.sessions.get? id = some session → S session

variable {s : System} {F : MapperFactory → Prop} {S : Session → Prop}

/-- Events leave alone what all sessions share of mappers. -/
theorem mappers_happen (s : System) (event : Event) :
    (s.happen event).configuration = s.configuration ∧
      (s.happen event).standalone = s.standalone := by
  cases event with
  | refuse r calls => exact ⟨rfl, rfl⟩
  | step step =>
    cases step with
    | openSession mode =>
      unfold happen System.step openSession
      dsimp only
      split_ifs <;> exact ⟨rfl, rfl⟩
    | dropSession id =>
      unfold happen System.step dropSession
      dsimp only
      cases s.sessions.get? id <;> exact ⟨rfl, rfl⟩
    | call id call =>
      unfold happen System.step System.call
      dsimp only
      cases s.sessions.get? id <;> exact ⟨rfl, rfl⟩
    | _ => exact ⟨rfl, rfl⟩

/-! ## Calls of mappers -/

/-- The system with a factory and a session as a dispatch has left them. -/
def leave (s : System) (proxy : MapperProxy) (st : MapperState) : System :=
  { s.setFactory proxy.factory st.factory with
    shared := st.shared
    sessions := s.sessions.insert proxy.session st.session }

/-- A call of a mapper finds no factory, or it is a dispatch on the factory and the session. -/
inductive Invokes (s : System) (proxy : MapperProxy) (method : String) (args : List Arg)
    (room : Nat) : Outcome MapperResult → System → Prop where
  | unknown {cause : BindingError} (hfactory : s.factory proxy.factory = .error cause) :
    Invokes s proxy method args room (.error (.error (.binding cause))) s
  | dispatched {factory : MapperFactory} {session : Session} {outcome : Outcome MapperResult}
    {st : MapperState} (hfactory : s.factory proxy.factory = .ok factory)
    (hsession : s.sessions.get? proxy.session = some session)
    (hinvoke : MapperState.invoke s.configuration.toCatalog proxy room method args
      ⟨factory, session, s.shared⟩ = (outcome, st)) :
    Invokes s proxy method args room outcome (s.leave proxy st)

theorem invokes_of_invoke {proxy : MapperProxy} {method : String} {args : List Arg} {room : Nat}
    {outcome : Outcome MapperResult} {s' : System}
    (h : s.invoke proxy method args room = some (outcome, s')) :
    s.Invokes proxy method args room outcome s' := by
  unfold invoke onMapper at h
  obtain ⟨session, hsession, hanswer⟩ := Option.map_eq_some_iff.1 h
  cases hfactory : s.factory proxy.factory with
  | error cause =>
    rw [hfactory] at hanswer
    cases hanswer
    exact .unknown hfactory
  | ok factory =>
    rw [hfactory] at hanswer
    dsimp only at hanswer
    cases hinvoke : MapperState.invoke s.configuration.toCatalog proxy room method args
        ⟨factory, session, s.shared⟩ with
    | mk outcome' st =>
      rw [hinvoke] at hanswer
      cases hanswer
      exact .dispatched hfactory hsession hinvoke

theorem getElem?_of_factory {index : Nat} {f : MapperFactory}
    (h : s.factory (.standalone index) = .ok f) : s.standalone[index]? = some f := by
  unfold factory at h
  dsimp only at h
  cases hindex : s.standalone[index]? with
  | none =>
    rw [hindex] at h
    cases h
  | some f' =>
    rw [hindex] at h
    exact congrArg some (Except.ok.inj h)

theorem catalog_setFactory (s : System) (ref : FactoryRef) (f : MapperFactory) :
    (s.setFactory ref f).configuration.toCatalog = s.configuration.toCatalog := by
  cases ref <;> rfl

/-- The catalog is put together once. -/
theorem catalog_act (s : System) (action : Action) :
    (s.act action).configuration.toCatalog = s.configuration.toCatalog := by
  cases action with
  | event event => exact congrArg Configuration.toCatalog (s.mappers_happen event).1
  | invoke proxy method args room =>
    unfold act
    dsimp only
    cases hinvoke : s.invoke proxy method args room with
    | none => rfl
    | some answer =>
      obtain ⟨outcome, s'⟩ := answer
      cases invokes_of_invoke hinvoke with
      | unknown => rfl
      | dispatched => exact s.catalog_setFactory proxy.factory _

theorem catalog_acted (s : System) (actions : List Action) :
    (s.acted actions).configuration.toCatalog = s.configuration.toCatalog := by
  induction actions generalizing s with
  | nil => rfl
  | cons action rest ih => exact (ih (s.act action)).trans (s.catalog_act action)

/-- An event is answered with an error because no session can be opened, or because a call of a
session has failed. -/
theorem error_of_event {event : Event} {e : Error} (h : s.reported? (.event event) = some e) :
    e = DataSource.failure .opening ∨
      ∃ a session call, s.sessions.get? a = some session ∧
        (session.perform s.configuration.toCatalog s.shared call).1 = .error (.error e) := by
  cases event with
  | refuse r calls => cases h
  | step step =>
    cases step with
    | openSession mode =>
      unfold reported? System.step openSession at h
      dsimp only at h
      split_ifs at h
      · exact .inl (Option.some.inj h).symm
      · cases h
    | dropSession id =>
      unfold reported? System.step dropSession at h
      dsimp only at h
      cases hsession : s.sessions.get? id with
      | none =>
        rw [hsession] at h
        cases h
      | some session =>
        rw [hsession] at h
        cases h
    | call a call =>
      unfold reported? System.step System.call at h
      dsimp only at h
      cases hsession : s.sessions.get? a with
      | none =>
        rw [hsession] at h
        cases h
      | some session =>
        rw [hsession] at h
        exact .inr ⟨a, session, call, hsession, Outcome.eq_of_error? h⟩
    | _ => cases h

/-! ## What all factories and all sessions have -/

/-- What is true of all factories that have resolved nothing is true before a run. -/
theorem upholds_launched (settings : Settings) (registrations : List Registration)
    (interfaces : List MapperInterface) (shared : Shared)
    (hfresh : ∀ interface, F { interface }) :
    (launched settings registrations interfaces shared).Upholds F S where
  registered := fun id f hf =>
    (Configuration.finds_inTurn settings registrations).fresh id f hf ▸ hfresh f.interface
  standalone := fun f hf => by
    obtain ⟨interface, -, rfl⟩ := List.mem_map.1 hf
    exact hfresh interface
  sessions := fun _ _ => nofun

namespace Upholds

theorem factory (h : s.Upholds F S) {ref : FactoryRef} {f : MapperFactory}
    (hf : s.factory ref = .ok f) : F f := by
  cases ref with
  | registered type => exact h.registered type.id f (MapperRegistry.factory_eq_ok_iff.1 hf)
  | standalone index => exact h.standalone f (List.mem_of_getElem? (getElem?_of_factory hf))

theorem setFactory (h : s.Upholds F S) (ref : FactoryRef) {f : MapperFactory} (hf : F f) :
    (s.setFactory ref f).Upholds F S := by
  cases ref with
  | registered type =>
    refine ⟨?_, h.standalone, h.sessions⟩
    unfold System.setFactory MapperRegistry.setFactory
    dsimp only
    split_ifs
    · exact Table.forall_insert hf h.registered
    · exact h.registered
  | standalone index =>
    refine ⟨h.registered, fun f' hf' => ?_, h.sessions⟩
    rcases List.mem_or_eq_of_mem_set hf' with hmem | rfl
    · exact h.standalone f' hmem
    · exact hf

theorem happen (h : s.Upholds F S) (hkeeps : s.configuration.toCatalog.Keeps F S)
    (event : Event) : (s.happen event).Upholds F S := by
  refine ⟨?_, ?_, ?_⟩
  · rw [(s.mappers_happen event).1]
    exact h.registered
  · rw [(s.mappers_happen event).2]
    exact h.standalone
  · cases event with
    | refuse r calls => exact h.sessions
    | step step =>
      cases step with
      | openSession mode =>
        unfold System.happen System.step openSession
        dsimp only
        split_ifs
        · exact h.sessions
        · exact Table.forall_insert (hkeeps.opened _) h.sessions
      | dropSession id =>
        unfold System.happen System.step dropSession
        dsimp only
        cases s.sessions.get? id with
        | none => exact h.sessions
        | some session => exact Table.forall_erase h.sessions
      | call id call =>
        unfold System.happen System.step System.call
        dsimp only
        cases hsession : s.sessions.get? id with
        | none => exact h.sessions
        | some session =>
          exact Table.forall_insert (hkeeps.called (h.sessions id session hsession)) h.sessions
      | _ => exact h.sessions

theorem leave (h : s.Upholds F S) (proxy : MapperProxy) {st : MapperState} (hf : F st.factory)
    (hsession : S st.session) : (s.leave proxy st).Upholds F S where
  registered := (h.setFactory proxy.factory hf).registered
  standalone := (h.setFactory proxy.factory hf).standalone
  sessions := Table.forall_insert hsession h.sessions

/-- What a dispatch comes by has the properties, and so has what it leaves. -/
theorem leads {catalog : Catalog} (hkeeps : catalog.Keeps F S) {st st' : MapperState}
    (hleads : MapperState.Leads catalog st st') (h : F st.factory ∧ S st.session) :
    F st'.factory ∧ S st'.session := by
  refine hleads.invariant (I := fun st => F st.factory ∧ S st.session) (fun _ _ hadvances h => ?_) h
  cases hadvances with
  | resolved hmethod => exact ⟨hkeeps.resolved h.1 hmethod, h.2⟩
  | called => exact ⟨h.1, hkeeps.called h.2⟩

theorem act (h : s.Upholds F S) (hkeeps : s.configuration.toCatalog.Keeps F S)
    (action : Action) : (s.act action).Upholds F S := by
  cases action with
  | event event => exact h.happen hkeeps event
  | invoke proxy method args room =>
    unfold System.act
    dsimp only
    cases hinvoke : s.invoke proxy method args room with
    | none => exact h
    | some answer =>
      obtain ⟨outcome, s'⟩ := answer
      cases invokes_of_invoke hinvoke with
      | unknown => exact h
      | @dispatched factory session _ st hfactory hsession hdispatch =>
        have hdispatched := hdispatch ▸ MapperState.dispatched_invoke s.configuration.toCatalog
          proxy room method args ⟨factory, session, s.shared⟩
        have hleads := hdispatched.leads
        obtain ⟨hf, hs⟩ := leads hkeeps hleads
          ⟨h.factory hfactory, h.sessions proxy.session _ hsession⟩
        exact h.leave proxy hf hs

theorem acted (h : s.Upholds F S) (hkeeps : s.configuration.toCatalog.Keeps F S)
    (actions : List Action) : (s.acted actions).Upholds F S := by
  induction actions generalizing s with
  | nil => exact h
  | cons action rest ih =>
    exact ih (h.act hkeeps action) ((s.catalog_act action).symm ▸ hkeeps)

end Upholds

end System

end DataMapper
