import DataMapper.Mapper.Factory
import DataMapper.Proofs.Table
import Mathlib.Data.List.Nodup
import Mathlib.Logic.Function.Basic
/-!
# Resolution under concurrent first use

Any number of callers ask one factory for methods. Each passes the section under the shared lock
and, if it finds nothing there, later the one under the exclusive lock; between the two any others
may pass theirs. Beside the factory runs a list of all resolutions that were ever tried. It changes
nothing.
-/

namespace DataMapper

/-- A resolution that was tried, with its result. -/
structure Trial where
  method : String
  result : Except BindingError Invoker

/-- The methods that were resolved, one for each resolution that succeeded. -/
def Trial.successes (trials : List Trial) : List String :=
  trials.filterMap fun t =>
    match t.result with
    | .ok _ => some t.method
    | .error _ => none

theorem Trial.mem_successes {trials : List Trial} {method : String} :
    method ∈ successes trials ↔ ∃ invoker, ⟨method, .ok invoker⟩ ∈ trials := by
  unfold successes
  rw [List.mem_filterMap]
  constructor
  · rintro ⟨⟨name, result⟩, ht, hsuccess⟩
    cases result with
    | error e => cases hsuccess
    | ok invoker => exact ⟨invoker, Option.some.inj hsuccess ▸ ht⟩
  · rintro ⟨invoker, ht⟩
    exact ⟨_, ht, rfl⟩

namespace MapperFactory

variable {f : MapperFactory} {catalog : Catalog} {method : String}

/-- Only the interface decides what a method resolves to. -/
theorem resolve_congr {f' : MapperFactory} (h : f.interface = f'.interface) :
    f.resolve = f'.resolve := by
  unfold resolve
  rw [h]

/-- The factory with a method that was resolved. -/
def keep (f : MapperFactory) (method : String) (invoker : Invoker) : MapperFactory :=
  { f with
    invokers := f.invokers.insert method invoker
    resolutions := f.resolutions + 1 }

theorem lookup?_keep (f : MapperFactory) (method : String) (invoker : Invoker) (name : String) :
    (f.keep method invoker).lookup? name = if name = method then some invoker else f.lookup? name :=
  NameMap.get?_insert f.invokers method name invoker

@[simp] theorem resolutions_keep (f : MapperFactory) (method : String) (invoker : Invoker) :
    (f.keep method invoker).resolutions = f.resolutions + 1 :=
  rfl

theorem cachedCount_keep (invoker : Invoker) (hlookup : f.lookup? method = none) :
    (f.keep method invoker).cachedCount = f.cachedCount + 1 :=
  NameMap.size_insert f.invokers invoker hlookup

/-- What a single caller gets: what is kept, or else what the method resolves to, which is kept if
it does. -/
inductive Invokes (f : MapperFactory) (catalog : Catalog) (method : String) :
    Except BindingError Invoker × MapperFactory → Prop where
  | kept {invoker : Invoker} (hlookup : f.lookup? method = some invoker) :
    Invokes f catalog method (.ok invoker, f)
  | unresolved {e : BindingError} (hlookup : f.lookup? method = none)
    (hresolve : f.resolve catalog method = .error e) : Invokes f catalog method (.error e, f)
  | resolved {invoker : Invoker} (hlookup : f.lookup? method = none)
    (hresolve : f.resolve catalog method = .ok invoker) :
    Invokes f catalog method (.ok invoker, f.keep method invoker)

theorem invokes_invoker (f : MapperFactory) (catalog : Catalog) (method : String) :
    f.Invokes catalog method (f.invoker catalog method) := by
  unfold invoker
  cases hlookup : f.lookup? method with
  | some invoker => exact .kept hlookup
  | none =>
    unfold resolveOnce
    rw [hlookup]
    dsimp only
    cases hresolve : f.resolve catalog method with
    | error e => exact .unresolved hlookup hresolve
    | ok invoker => exact .resolved hlookup hresolve

/-- The section under the exclusive lock, and beside its answer the resolution that it tries. -/
def resolveNoting (f : MapperFactory) (catalog : Catalog) (method : String) :
    List Trial × Except BindingError Invoker × MapperFactory :=
  match f.lookup? method with
  | some invoker => ([], .ok invoker, f)
  | none =>
    let result := f.resolve catalog method
    match result with
    | .error e => ([⟨method, result⟩], .error e, f)
    | .ok invoker => ([⟨method, result⟩], .ok invoker, f.keep method invoker)

/-- Notes change nothing of a resolution. -/
theorem snd_resolveNoting (f : MapperFactory) (catalog : Catalog) (method : String) :
    (f.resolveNoting catalog method).2 = f.resolveOnce catalog method := by
  unfold resolveNoting resolveOnce
  cases f.lookup? method with
  | some invoker => rfl
  | none =>
    dsimp only
    cases f.resolve catalog method <;> rfl

/-- The trials account for all that the factory has kept. -/
structure Accounts (catalog : Catalog) (trials : List Trial) (f : MapperFactory) : Prop where
  results : ∀ t ∈ trials, t.result = f.resolve catalog t.method
  kept : ∀ method invoker, f.lookup? method = some invoker ↔ ⟨method, .ok invoker⟩ ∈ trials
  once : (Trial.successes trials).Nodup
  resolutions : f.resolutions = (Trial.successes trials).length
  cachedCount : f.cachedCount = (Trial.successes trials).length

theorem accounts_fresh (catalog : Catalog) (interface : MapperInterface) :
    Accounts catalog [] { interface } where
  results := fun _ ht => (List.not_mem_nil ht).elim
  kept := by simp [lookup?]
  once := List.nodup_nil
  resolutions := rfl
  cachedCount := rfl

namespace Accounts

variable {trials : List Trial} {invoker : Invoker}

theorem resolve_of_lookup? (h : Accounts catalog trials f)
    (hlookup : f.lookup? method = some invoker) : f.resolve catalog method = .ok invoker :=
  (h.results _ ((h.kept method invoker).1 hlookup)).symm

theorem not_mem_successes (h : Accounts catalog trials f) (hlookup : f.lookup? method = none) :
    method ∉ Trial.successes trials := by
  intro hmem
  obtain ⟨invoker, ht⟩ := Trial.mem_successes.1 hmem
  rw [(h.kept method invoker).2 ht] at hlookup
  cases hlookup

theorem failed (h : Accounts catalog trials f) {e : BindingError}
    (hresolve : f.resolve catalog method = .error e) :
    Accounts catalog (trials ++ [⟨method, .error e⟩]) f := by
  have hsame : Trial.successes (trials ++ [⟨method, .error e⟩]) = Trial.successes trials := by
    simp [Trial.successes]
  refine ⟨fun t ht => ?_, fun name invoker => ?_, hsame ▸ h.once, hsame ▸ h.resolutions,
    hsame ▸ h.cachedCount⟩
  · rcases List.mem_append.1 ht with ht | ht
    · exact h.results t ht
    · rw [List.mem_singleton.1 ht]
      exact hresolve.symm
  · rw [h.kept]
    simp

theorem succeeded (h : Accounts catalog trials f) (hlookup : f.lookup? method = none)
    (hresolve : f.resolve catalog method = .ok invoker) :
    Accounts catalog (trials ++ [⟨method, .ok invoker⟩]) (f.keep method invoker) := by
  have hmore : Trial.successes (trials ++ [⟨method, .ok invoker⟩]) =
      Trial.successes trials ++ [method] := by
    simp [Trial.successes]
  refine ⟨fun t ht => ?_, fun name invoker' => ?_, ?_, ?_, ?_⟩
  · rcases List.mem_append.1 ht with ht | ht
    · exact h.results t ht
    · rw [List.mem_singleton.1 ht]
      exact hresolve.symm
  · rw [lookup?_keep, List.mem_append, ← h.kept]
    by_cases hsame : name = method
    · subst hsame
      simp [hlookup, eq_comm]
    · simp [hsame]
  · rw [hmore, List.nodup_append]
    refine ⟨h.once, List.nodup_singleton method, fun a ha b hb heq => ?_⟩
    exact h.not_mem_successes hlookup (List.mem_singleton.1 hb ▸ heq ▸ ha)
  · rw [resolutions_keep, hmore, List.length_append, h.resolutions]
    rfl
  · rw [cachedCount_keep invoker hlookup, hmore, List.length_append, h.cachedCount]
    rfl

/-- What the section under the exclusive lock leaves, after trials that account for the factory. -/
structure Settled (catalog : Catalog) (trials : List Trial) (f : MapperFactory) (method : String)
    (left : List Trial × Except BindingError Invoker × MapperFactory) : Prop where
  accounts : Accounts catalog (trials ++ left.1) left.2.2
  answer : left.2.1 = f.resolve catalog method
  stored : ∀ invoker, left.2.1 = .ok invoker → left.2.2.lookup? method = some invoker
  interface : left.2.2.interface = f.interface
  kept : ∀ name invoker, f.lookup? name = some invoker → left.2.2.lookup? name = some invoker
  failed : ∀ e, left.2.1 = .error e → left.2.2 = f

theorem settled (h : Accounts catalog trials f) (method : String) :
    Settled catalog trials f method (f.resolveNoting catalog method) := by
  unfold resolveNoting
  cases hlookup : f.lookup? method with
  | some invoker =>
    dsimp only
    refine ⟨by rwa [List.append_nil], (h.resolve_of_lookup? hlookup).symm, fun invoker' heq => ?_,
      rfl, fun _ _ hname => hname, nofun⟩
    exact Except.ok.inj heq ▸ hlookup
  | none =>
    dsimp only
    cases hresolve : f.resolve catalog method with
    | error e =>
      exact ⟨h.failed hresolve, hresolve.symm, nofun, rfl, fun _ _ hname => hname, fun _ _ => rfl⟩
    | ok invoker =>
      refine ⟨h.succeeded hlookup hresolve, hresolve.symm, fun invoker' heq => ?_, rfl,
        fun _ _ hname => NameMap.get?_insert_of_new invoker hlookup hname, nofun⟩
      cases heq
      exact NameMap.get?_insert_self _ _ _

end Accounts

end MapperFactory

/-! ## Races -/

/-- Where a caller is: before both sections, between them, or answered. -/
inductive Caller where
  | asking (method : String)
  | missed (method : String)
  | answered (method : String) (answer : Except BindingError Invoker)

namespace Caller

def method : Caller → String
  | asking method | missed method | answered method _ => method

/-- The number of sections that a caller has behind it, or would have if it needed both. -/
def sections : Caller → Nat
  | asking _ => 0
  | missed _ => 1
  | answered _ _ => 2

theorem eq_answered {c : Caller} (h : 2 ≤ c.sections) :
    ∃ answer, c = .answered c.method answer := by
  cases c with
  | asking method => simp [sections] at h
  | missed method => simp [sections] at h
  | answered method answer => exact ⟨answer, rfl⟩

end Caller

/-- A factory, its callers, and the resolutions that were tried so far. -/
structure Race where
  factory : MapperFactory
  callers : Nat → Caller
  trials : List Trial := []

namespace Race

/-- A factory that nobody has asked for anything, and what each caller will ask for. -/
def start (interface : MapperInterface) (asked : Nat → String) : Race where
  factory := { interface }
  callers := fun i => .asking (asked i)

/-- The next section of a caller. -/
def advance (catalog : Catalog) (w : Race) (i : Nat) : Race :=
  match w.callers i with
  | .asking method =>
    match w.factory.lookup? method with
    | some invoker =>
      { w with callers := Function.update w.callers i (.answered method (.ok invoker)) }
    | none => { w with callers := Function.update w.callers i (.missed method) }
  | .missed method =>
    let (trials, answer, factory) := w.factory.resolveNoting catalog method
    { factory
      callers := Function.update w.callers i (.answered method answer)
      trials := w.trials ++ trials }
  | .answered _ _ => w

/-- The race after sections of the callers in that order. -/
def run (catalog : Catalog) (w : Race) (schedule : List Nat) : Race :=
  schedule.foldl (advance catalog) w

variable {catalog : Catalog} {interface : MapperInterface} {asked : Nat → String} {w : Race}

/-- One caller alone gets from its two sections what the factory answers. -/
theorem advance_advance {i : Nat} {method : String} (h : w.callers i = .asking method) :
    ((w.advance catalog i).advance catalog i).factory = (w.factory.invoker catalog method).2 ∧
      ((w.advance catalog i).advance catalog i).callers i =
        .answered method (w.factory.invoker catalog method).1 := by
  have hnoting := w.factory.snd_resolveNoting catalog method
  unfold advance MapperFactory.invoker
  rw [h]
  cases hlookup : w.factory.lookup? method with
  | some invoker => simp [hlookup]
  | none => simp [hlookup, hnoting]

/-- An answer that is right in a race. -/
def Right (catalog : Catalog) (f : MapperFactory) (c : Caller) : Prop :=
  ∀ method answer, c = .answered method answer →
    answer = f.resolve catalog method ∧
      ∀ invoker, answer = .ok invoker → f.lookup? method = some invoker

/-- Trials account for the factory, callers get what they have asked for, and all answers are
right. -/
structure Sound (catalog : Catalog) (interface : MapperInterface) (asked : Nat → String)
    (w : Race) : Prop where
  accounts : w.factory.Accounts catalog w.trials
  interface : w.factory.interface = interface
  method : ∀ i, (w.callers i).method = asked i
  answers : ∀ i, Right catalog w.factory (w.callers i)

theorem sound_start (catalog : Catalog) (interface : MapperInterface) (asked : Nat → String) :
    (start interface asked).Sound catalog interface asked where
  accounts := MapperFactory.accounts_fresh catalog interface
  interface := rfl
  method := fun _ => rfl
  answers := fun _ _ _ => nofun

/-- A caller moves on, over a factory that has kept all that it had. -/
theorem Sound.move (h : w.Sound catalog interface asked) {i : Nat} {factory : MapperFactory}
    {trials : List Trial} {c : Caller} (haccounts : factory.Accounts catalog trials)
    (hinterface : factory.interface = w.factory.interface)
    (hkept : ∀ name invoker, w.factory.lookup? name = some invoker →
      factory.lookup? name = some invoker)
    (hmethod : c.method = (w.callers i).method) (hright : Right catalog factory c) :
    Sound catalog interface asked ⟨factory, Function.update w.callers i c, trials⟩ := by
  refine ⟨haccounts, hinterface.trans h.interface, fun j => ?_, fun j => ?_⟩
  · by_cases hj : j = i
    · subst hj
      simpa [hmethod] using h.method j
    · simpa [Function.update_of_ne hj] using h.method j
  · by_cases hj : j = i
    · subst hj
      simpa using hright
    · dsimp only
      rw [Function.update_of_ne hj]
      intro method answer hanswer
      obtain ⟨hresolve, hstored⟩ := h.answers j method answer hanswer
      refine ⟨?_, fun invoker heq => hkept method invoker (hstored invoker heq)⟩
      rw [hresolve, MapperFactory.resolve_congr hinterface]

theorem Sound.advance (h : w.Sound catalog interface asked) (i : Nat) :
    (w.advance catalog i).Sound catalog interface asked := by
  unfold Race.advance
  cases hcaller : w.callers i with
  | answered method answer => exact h
  | asking method =>
    have hmethod : (w.callers i).method = method := by rw [hcaller, Caller.method]
    dsimp only
    cases hlookup : w.factory.lookup? method with
    | none => exact h.move h.accounts rfl (fun _ _ hname => hname) hmethod.symm fun _ _ => nofun
    | some invoker =>
      refine h.move h.accounts rfl (fun _ _ hname => hname) hmethod.symm fun name answer heq => ?_
      cases heq
      refine ⟨(h.accounts.resolve_of_lookup? hlookup).symm, fun invoker' heq => ?_⟩
      exact Except.ok.inj heq ▸ hlookup
  | missed method =>
    have hmethod : (w.callers i).method = method := by rw [hcaller, Caller.method]
    -- Others may have resolved the method since the caller missed it, so nothing is assumed of the
    -- factory but that its trials account for it.
    have hsettled := h.accounts.settled method
    dsimp only
    generalize w.factory.resolveNoting catalog method = left at hsettled
    obtain ⟨trials, answer, factory⟩ := left
    refine h.move hsettled.accounts hsettled.interface hsettled.kept hmethod.symm
      fun name answer' heq => ?_
    cases heq
    refine ⟨?_, hsettled.stored⟩
    have hinterface : factory.interface = w.factory.interface := hsettled.interface
    have hanswer : answer = w.factory.resolve catalog method := hsettled.answer
    rw [hanswer, MapperFactory.resolve_congr hinterface]

theorem Sound.run (h : w.Sound catalog interface asked) (schedule : List Nat) :
    (w.run catalog schedule).Sound catalog interface asked := by
  induction schedule generalizing w with
  | nil => exact h
  | cons i rest ih => exact ih (h.advance i)

/-! ### Progress -/

theorem sections_advance (catalog : Catalog) (w : Race) (i j : Nat) :
    min 2 (((w.callers i).sections) + if i = j then 1 else 0) ≤
      ((w.advance catalog j).callers i).sections := by
  by_cases hij : i = j
  · subst hij
    unfold advance
    cases hcaller : w.callers i with
    | answered method answer => simp [hcaller, Caller.sections]
    | asking method =>
      dsimp only
      cases w.factory.lookup? method <;> simp [Caller.sections]
    | missed method => simp [Caller.sections]
  · have hsame : (w.advance catalog j).callers i = w.callers i := by
      unfold advance
      cases w.callers j with
      | answered method answer => rfl
      | asking method =>
        dsimp only
        cases w.factory.lookup? method <;> exact Function.update_of_ne hij _ _
      | missed method => exact Function.update_of_ne hij _ _
    rw [hsame, if_neg hij]
    omega

theorem sections_run (catalog : Catalog) (w : Race) (schedule : List Nat) (i : Nat) :
    min 2 ((w.callers i).sections + schedule.count i) ≤
      ((w.run catalog schedule).callers i).sections := by
  induction schedule generalizing w with
  | nil =>
    exact Nat.min_le_right _ _
  | cons j rest ih =>
    have hfirst := w.sections_advance catalog i j
    have hrest := ih (w.advance catalog j)
    have hcount : (j :: rest).count i = rest.count i + if i = j then 1 else 0 := by
      rw [List.count_cons]
      simp only [beq_iff_eq, eq_comm (a := j)]
    have hrun : w.run catalog (j :: rest) = (w.advance catalog j).run catalog rest := rfl
    rw [hcount, hrun]
    omega

/-! ### Single resolution -/

/-- What holds of a race after sections of its callers in any order. -/
structure ResolvesOnce (catalog : Catalog) (interface : MapperInterface) (asked : Nat → String)
    (schedule : List Nat) (w : Race) : Prop where
  /-- No method was resolved twice. -/
  once : (Trial.successes w.trials).Nodup
  /-- Each answer is what the method resolves to, and that is what is stored from then on. -/
  answers : ∀ i method answer, w.callers i = .answered method answer →
    method = asked i ∧ answer = ({ interface } : MapperFactory).resolve catalog method ∧
      ∀ invoker, answer = .ok invoker → w.factory.lookup? method = some invoker
  failed : ∀ i method e, w.callers i = .missed method →
    (w.advance catalog i).callers i = .answered method (.error e) →
      (w.advance catalog i).factory = w.factory
  counts : w.factory.resolutions = w.factory.cachedCount
  /-- The names that are kept are those of declared methods that were resolved. -/
  names : ∀ name, name ∈ w.factory.invokers.names ↔
    (∃ m ∈ interface.methods, m.name = name) ∧ name ∈ Trial.successes w.trials
  /-- Two sections are enough for an answer. -/
  answered : ∀ i, 2 ≤ schedule.count i → ∃ answer, w.callers i = .answered (asked i) answer
  /-- A caller that no other comes between gets what the factory answers to a single one. -/
  alone : ∀ i method, w.callers i = .asking method →
    ((w.advance catalog i).advance catalog i).factory = (w.factory.invoker catalog method).2 ∧
      ((w.advance catalog i).advance catalog i).callers i =
        .answered method (w.factory.invoker catalog method).1

theorem declared_of_resolve {f : MapperFactory} {method : String} {invoker : Invoker}
    (h : f.resolve catalog method = .ok invoker) :
    ∃ m ∈ f.interface.methods, m.name = method := by
  unfold MapperFactory.resolve at h
  cases hfound : f.interface.findMethod? method with
  | none =>
    rw [hfound] at h
    cases h
  | some m =>
    have hname := List.find?_some hfound
    exact ⟨m, List.mem_of_find?_eq_some hfound, by simpa using hname⟩

theorem Sound.failed (h : w.Sound catalog interface asked) {i : Nat} {method : String}
    {e : BindingError} (hcaller : w.callers i = .missed method)
    (hanswer : (w.advance catalog i).callers i = .answered method (.error e)) :
    (w.advance catalog i).factory = w.factory := by
  have hsettled := h.accounts.settled method
  unfold Race.advance at hanswer ⊢
  rw [hcaller] at hanswer ⊢
  dsimp only at hanswer ⊢
  rw [Function.update_self] at hanswer
  exact hsettled.failed e (Caller.answered.inj hanswer).2

theorem Sound.mem_names_iff (h : w.Sound catalog interface asked) (name : String) :
    name ∈ w.factory.invokers.names ↔
      (∃ m ∈ interface.methods, m.name = name) ∧ name ∈ Trial.successes w.trials := by
  rw [NameMap.mem_names, Trial.mem_successes]
  constructor
  · rintro ⟨invoker, hstored⟩
    have hresolve := h.accounts.resolve_of_lookup? hstored
    obtain ⟨m, hm, hname⟩ := declared_of_resolve hresolve
    exact ⟨⟨m, h.interface ▸ hm, hname⟩, invoker, (h.accounts.kept name invoker).1 hstored⟩
  · rintro ⟨-, invoker, htrial⟩
    exact ⟨invoker, (h.accounts.kept name invoker).2 htrial⟩

theorem resolvesOnce (catalog : Catalog) (interface : MapperInterface) (asked : Nat → String)
    (schedule : List Nat) :
    ((start interface asked).run catalog schedule).ResolvesOnce catalog interface asked
      schedule := by
  have h := (sound_start catalog interface asked).run schedule
  refine ⟨h.accounts.once, fun i method answer hanswer => ?_, fun _ _ _ => h.failed,
    h.accounts.resolutions.trans h.accounts.cachedCount.symm, h.mem_names_iff, fun i hcount => ?_,
    fun _ _ => advance_advance⟩
  · obtain ⟨hresolve, hstored⟩ := h.answers i method answer hanswer
    have hmethod := h.method i
    rw [hanswer] at hmethod
    refine ⟨hmethod, hresolve.trans ?_, hstored⟩
    exact congrFun (congrFun (MapperFactory.resolve_congr h.interface) catalog) method
  · have hsections := (start interface asked).sections_run catalog schedule i
    have htwo : 2 ≤ (((start interface asked).run catalog schedule).callers i).sections := by
      omega
    obtain ⟨answer, hanswer⟩ := Caller.eq_answered htwo
    exact ⟨answer, h.method i ▸ hanswer⟩

end Race

end DataMapper
