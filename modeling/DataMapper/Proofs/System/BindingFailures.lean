import DataMapper.Proofs.Session.Errors
import DataMapper.Proofs.System.Resolution
/-!
# Failures of binding

A call that cannot be bound has no effect, wherever in a run it is made. A factory may have resolved
the method before its arguments turned out to be wrong, and keeps it then.
-/

namespace DataMapper

/-- A default body carries the method out. -/
def MapperInterface.HasDefault (i : MapperInterface) (method : String) : Prop :=
  ∃ m, i.findMethod? method = some m ∧ m.isDefault = true

namespace MapperFactory

variable {f : MapperFactory} {catalog : Catalog} {method : String}

theorem plain_of_resolve {invoker : Invoker} (h : f.resolve catalog method = .ok invoker)
    (hplain : ¬ f.interface.HasDefault method) : ∃ m, invoker = .plain m := by
  unfold resolve at h
  cases hfound : f.interface.findMethod? method with
  | none =>
    rw [hfound] at h
    cases h
  | some m =>
    rw [hfound] at h
    dsimp only at h
    cases hbody : m.body with
    | default body =>
      exact absurd ⟨m, hfound, by rw [MethodSignature.isDefault, hbody]⟩ hplain
    | _ =>
      rw [hbody] at h
      dsimp only at h
      cases hresolved : MapperMethod.resolve catalog f.interface m with
      | error e =>
        rw [hresolved] at h
        cases h
      | ok resolved =>
        rw [hresolved] at h
        exact ⟨resolved, (Except.ok.inj h).symm⟩

/-- The factory, or the factory with the method resolved just now. -/
inductive Learns (catalog : Catalog) (method : String) (f : MapperFactory) :
    MapperFactory → Prop where
  | nothing : Learns catalog method f f
  | resolved {invoker : Invoker} (hlookup : f.lookup? method = none)
    (hresolve : f.resolve catalog method = .ok invoker) :
    Learns catalog method f (f.keep method invoker)

/-- Without a default body the invoker runs a statement. -/
theorem learns_of_invoker (hf : f.Consistent catalog) (hplain : ¬ f.interface.HasDefault method)
    {invoker : Except BindingError Invoker} {f' : MapperFactory}
    (h : f.invoker catalog method = (invoker, f')) :
    Learns catalog method f f' ∧ ∀ found, invoker = .ok found → ∃ m, found = .plain m := by
  have hinvokes := f.invokes_invoker catalog method
  rw [h] at hinvokes
  cases hinvokes with
  | kept hlookup =>
    refine ⟨.nothing, fun found hfound => ?_⟩
    cases hfound
    exact plain_of_resolve (hf.resolves method _ hlookup) hplain
  | unresolved => exact ⟨.nothing, nofun⟩
  | resolved hlookup hresolve =>
    refine ⟨.resolved hlookup hresolve, fun found hfound => ?_⟩
    cases hfound
    exact plain_of_resolve hresolve hplain

end MapperFactory

theorem MapperMethod.execute_eq_of_binding {m : MapperMethod} {catalog : Catalog}
    {args : List Arg} {s : Session} {shared : Shared} {cause : BindingError}
    (h : (m.execute catalog args s shared).1 = .error (.error (.binding cause))) :
    (m.execute catalog args s shared).2 = (s, shared) := by
  unfold execute at h ⊢
  cases hplan : m.plan args with
  | error e => rfl
  | ok call =>
    rw [hplan] at h
    exact Session.perform_eq_of_binding (Outcome.error_of_map h)

/-- A dispatch that fails to bind leaves the session and all that is shared, and at most has
resolved the method. -/
theorem MapperState.learns_of_binding {catalog : Catalog} {proxy : MapperProxy} {room : Nat}
    {method : String} {args : List Arg} {st st' : MapperState} {cause : BindingError}
    (hf : st.factory.Consistent catalog) (hplain : ¬ st.factory.interface.HasDefault method)
    (h : st.invoke catalog proxy room method args = (.error (.error (.binding cause)), st')) :
    ∃ f, st.factory.Learns catalog method f ∧ st' = { st with factory := f } := by
  unfold invoke at h
  split at h
  · exact ⟨st.factory, .nothing, (congrArg Prod.snd h).symm⟩
  · split at h
    · next hinvoker =>
      cases h
      exact ⟨_, (MapperFactory.learns_of_invoker hf hplain hinvoker).1, rfl⟩
    · next m f hinvoker =>
      refine ⟨f, (MapperFactory.learns_of_invoker hf hplain hinvoker).1, ?_⟩
      have houtcome : (m.execute catalog args st.session st.shared).1 =
          .error (.error (.binding cause)) := Outcome.error_of_map (congrArg Prod.fst h)
      have hafter := MapperMethod.execute_eq_of_binding houtcome
      generalize m.execute catalog args st.session st.shared = result at h hafter
      obtain ⟨outcome, session, shared⟩ := result
      cases hafter
      exact (congrArg Prod.snd h).symm
    -- What was kept is what the method resolves to, and that is no default body.
    · next hinvoker =>
      obtain ⟨m, hm⟩ := (MapperFactory.learns_of_invoker hf hplain hinvoker).2 _ rfl
      cases hm

namespace System

variable {s : System}

theorem setFactory_of_factory {ref : FactoryRef} {f : MapperFactory}
    (h : s.factory ref = .ok f) : s.setFactory ref f = s := by
  cases ref with
  | registered type =>
    unfold setFactory MapperRegistry.setFactory
    dsimp only
    rw [Table.insert_of_get? (MapperRegistry.factory_eq_ok_iff.1 h), ite_self]
  | standalone index =>
    obtain ⟨hlength, rfl⟩ := List.getElem?_eq_some_iff.1 (getElem?_of_factory h)
    unfold setFactory
    dsimp only
    rw [List.set_getElem_self hlength]

theorem leave_of_session {proxy : MapperProxy} {session : Session}
    (h : s.sessions.get? proxy.session = some session) (f : MapperFactory) :
    s.leave proxy ⟨f, session, s.shared⟩ = s.setFactory proxy.factory f := by
  unfold leave
  dsimp only
  rw [Table.insert_of_get? h]
  cases proxy.factory <;> rfl

/-- Failures of binding come before any effect: a call of a session changes nothing at all, and a
mapper at most keeps the method from now on. -/
structure BindsFirst (s : System) : Prop where
  calls : ∀ session call cause,
    (s.step (.call session call)).1 = .answered (.error (.error (.binding cause))) →
      (s.step (.call session call)).2 = s
  mappers : ∀ proxy method args room cause s',
    (∀ f, s.factory proxy.factory = .ok f → ¬ f.interface.HasDefault method) →
    s.invoke proxy method args room = some (.error (.error (.binding cause)), s') →
      s' = s ∨ ∃ f invoker, s.factory proxy.factory = .ok f ∧ f.lookup? method = none ∧
        f.resolve s.configuration.toCatalog method = .ok invoker ∧
        s' = s.setFactory proxy.factory (f.keep method invoker)

theorem call_eq_of_binding {id : Nat} {call : SessionCall} {cause : BindingError}
    (h : (s.step (.call id call)).1 = .answered (.error (.error (.binding cause)))) :
    (s.step (.call id call)).2 = s := by
  unfold step System.call at h ⊢
  dsimp only at h ⊢
  cases hsession : s.sessions.get? id with
  | none => rfl
  | some session =>
    rw [hsession] at h
    have hafter := Session.perform_eq_of_binding (Reply.answered.inj h)
    obtain ⟨hkept, hshared⟩ := Prod.ext_iff.1 hafter
    dsimp only at hkept hshared ⊢
    rw [hkept, hshared, Table.insert_of_get? hsession]

theorem Upholds.bindsFirst {S : Session → Prop}
    (h : s.Upholds (MapperFactory.Consistent s.configuration.toCatalog) S) : s.BindsFirst := by
  refine ⟨fun _ _ _ => call_eq_of_binding, ?_⟩
  intro proxy method args room cause s' hplain hinvoke
  cases invokes_of_invoke hinvoke with
  | unknown => exact .inl rfl
  | @dispatched factory session _ st hfactory hsession hdispatch =>
    obtain ⟨f, hlearns, rfl⟩ := MapperState.learns_of_binding (h.factory hfactory)
      (hplain factory hfactory) hdispatch
    rw [leave_of_session hsession]
    cases hlearns with
    | nothing => exact .inl (setFactory_of_factory hfactory)
    | @resolved invoker hlookup hresolve =>
      exact .inr ⟨factory, invoker, hfactory, hlookup, hresolve, rfl⟩

/-- In every run, whatever fails to bind has no effect. -/
theorem binding_failures_have_no_effect (settings : Settings) (registrations : List Registration)
    (interfaces : List MapperInterface) (shared : Shared) (actions : List Action) :
    ((launched settings registrations interfaces shared).acted actions).BindsFirst := by
  have hupholds := consistent_acted settings registrations interfaces shared actions
  dsimp only at hupholds
  rw [← catalog_acted _ actions] at hupholds
  exact hupholds.bindsFirst

/-- A method is kept although its arguments were wrong. -/
example :
    let flush : MethodSignature := { name := "flush", returns := .void, body := .flush }
    let s := (launched {} [] [{ name := "a", methods := [flush] }] {}).act
      (.event (.step (.openSession none)))
    let call : Action := .invoke ⟨.standalone 0, 0⟩ "flush" [.bounds .all] 1
    s.reported? call = some (.binding (.argumentCount "flush" 0 1)) ∧
      (s.act call).standalone.map MapperFactory.cachedCount = [1] := by
  decide +kernel

end System

end DataMapper
