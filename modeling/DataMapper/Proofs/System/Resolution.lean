import DataMapper.Proofs.Mapper.Resolution
import DataMapper.Proofs.System.Mappers
/-!
# Resolution of methods

A factory resolves a method once, however many callers ask for it at the same time. What every
mapper answers itself no factory ever resolves for a mapper, whatever its interface declares and
whatever default bodies call.
-/

namespace DataMapper

namespace MapperFactory

/-- What a factory keeps is what the methods resolve to, and is not for methods that every mapper
answers itself. -/
structure Consistent (catalog : Catalog) (f : MapperFactory) : Prop where
  resolves : ∀ method invoker, f.lookup? method = some invoker →
    f.resolve catalog method = .ok invoker
  reserved : ∀ method ∈ objectMethods, f.lookup? method = none
  counts : f.resolutions = f.cachedCount

theorem consistent_fresh (catalog : Catalog) (interface : MapperInterface) :
    Consistent catalog { interface } where
  resolves := fun _ _ => nofun
  reserved := fun _ _ => rfl
  counts := rfl

theorem Consistent.invoker {catalog : Catalog} {f : MapperFactory} {method : String}
    (h : f.Consistent catalog) (hmethod : method ∉ objectMethods) :
    (f.invoker catalog method).2.Consistent catalog := by
  have hinvokes := f.invokes_invoker catalog method
  generalize f.invoker catalog method = answer at hinvokes
  cases hinvokes with
  | kept => exact h
  | unresolved => exact h
  | @resolved invoker hlookup hresolve =>
    refine ⟨NameMap.forall_insert hresolve h.resolves, fun object hobject => ?_, ?_⟩
    · have hne : object ≠ method := fun heq => hmethod (heq ▸ hobject)
      rw [lookup?_keep, if_neg hne]
      exact h.reserved object hobject
    · rw [resolutions_keep, cachedCount_keep invoker hlookup, h.counts]

end MapperFactory

theorem Catalog.keeps_consistent (catalog : Catalog) :
    catalog.Keeps (MapperFactory.Consistent catalog) fun _ => True where
  resolved := fun hf hmethod => hf.invoker hmethod
  opened := fun _ => trivial
  called := fun _ => trivial

/-- All factories stay consistent in every run from the start. -/
theorem System.consistent_acted (settings : Settings) (registrations : List Registration)
    (interfaces : List MapperInterface) (shared : Shared) (actions : List Action) :
    let start := launched settings registrations interfaces shared
    (start.acted actions).Upholds (MapperFactory.Consistent start.configuration.toCatalog)
      fun _ => True := by
  intro start
  have hstart : start.Upholds (MapperFactory.Consistent start.configuration.toCatalog)
      fun _ => True :=
    upholds_launched settings registrations interfaces shared
      (MapperFactory.consistent_fresh _)
  exact hstart.acted (Catalog.keeps_consistent _) actions

/-- Methods are resolved once under any schedule of their callers. In every run of mappers, what is
kept is right, and the methods that every mapper answers itself are not kept. -/
theorem methods_are_resolved_once :
    (∀ (catalog : Catalog) (interface : MapperInterface) (asked : Nat → String)
        (schedule : List Nat),
      ((Race.start interface asked).run catalog schedule).ResolvesOnce catalog interface asked
        schedule) ∧
    ∀ (settings : Settings) (registrations : List Registration)
        (interfaces : List MapperInterface) (shared : Shared) (actions : List Action),
      let start := System.launched settings registrations interfaces shared
      (start.acted actions).Upholds (MapperFactory.Consistent start.configuration.toCatalog)
        fun _ => True :=
  ⟨Race.resolvesOnce, System.consistent_acted⟩

end DataMapper
