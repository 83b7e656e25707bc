import DataMapper.Mapper.Proxy
import DataMapper.Proofs.Executor.Errors
import Mathlib.Logic.Relation
/-!
# Dispatch of mapper calls

Whatever default bodies do, a dispatch does two things only: it resolves methods other than those
that every mapper answers itself, and it calls the session. What both keep, every dispatch keeps.
-/

namespace DataMapper

namespace MapperMethod

variable {m : MapperMethod} {args : List Arg} {e : Error}

/-- A call that comes to no session fails in the mapper. -/
theorem ofMapper_of_plan (h : m.plan args = .error e) : e.ofMapper = true := by
  unfold plan at h
  split at h
  · cases h
    rfl
  · split at h
    · cases h
      rfl
    · split at h
      · cases h
      · cases h
      · cases h
      · cases h
      · unfold planSelect at h
        dsimp only at h
        split at h
        · split at h
          · cases h
          · cases h
            rfl
        · cases h
        · cases h
        · cases h
        · cases h
        · cases h
          rfl
        · cases h
          rfl

end MapperMethod

namespace MapperState

/-- The state once the method was looked up, and resolved if it was not yet. -/
def resolved (st : MapperState) (catalog : Catalog) (method : String) : MapperState :=
  { st with factory := (st.factory.invoker catalog method).2 }

/-- The state after a call of the session. -/
def called (st : MapperState) (catalog : Catalog) (call : SessionCall) : MapperState :=
  { st with
    session := (st.session.perform catalog st.shared call).2.1
    shared := (st.session.perform catalog st.shared call).2.2 }

/-- What a dispatch does, one thing at a time. -/
inductive Advances (catalog : Catalog) : MapperState → MapperState → Prop where
  | resolved (st : MapperState) {method : String} (h : method ∉ objectMethods) :
    Advances catalog st (st.resolved catalog method)
  | called (st : MapperState) (call : SessionCall) : Advances catalog st (st.called catalog call)

abbrev Leads (catalog : Catalog) : MapperState → MapperState → Prop :=
  Relation.ReflTransGen (Advances catalog)

/-- The errors that a dispatch may answer with: its own, and those of a call of the session. -/
inductive Raises (catalog : Catalog) (st : MapperState) : Error → Prop where
  | own {e : Error} (h : e.ofMapper = true) : Raises catalog st e
  | call {st' : MapperState} {call : SessionCall} {e : Error} (hleads : Leads catalog st st')
    (he : (st'.session.perform catalog st'.shared call).1 = .error (.error e)) :
    Raises catalog st e

structure Dispatched {α : Type} (catalog : Catalog) (st : MapperState)
    (answer : Outcome α × MapperState) : Prop where
  leads : Leads catalog st answer.2
  raises : ∀ e, answer.1 = .error (.error e) → Raises catalog st e

variable {catalog : Catalog} {st st' : MapperState} {proxy : MapperProxy} {method : String}
  {args : List Arg} {α β : Type}

theorem Leads.invariant {I : MapperState → Prop} (h : Leads catalog st st')
    (hkeeps : ∀ st st', Advances catalog st st' → I st → I st') (hst : I st) : I st' := by
  induction h with
  | refl => exact hst
  | tail _ hadvances ih => exact hkeeps _ _ hadvances ih

theorem Raises.after {e : Error} (hleads : Leads catalog st st') (h : Raises catalog st' e) :
    Raises catalog st e := by
  cases h with
  | own h => exact .own h
  | call hleads' he => exact .call (hleads.trans hleads') he

theorem Dispatched.after {answer : Outcome α × MapperState} (hleads : Leads catalog st st')
    (h : Dispatched catalog st' answer) : Dispatched catalog st answer :=
  ⟨hleads.trans h.leads, fun e he => (h.raises e he).after hleads⟩

/-- What follows a call goes on from the state after it, and is told of an error that may arise. -/
theorem Dispatched.resume {answer : Outcome α × MapperState}
    {next : Except Error α → MapperState → Outcome β × MapperState}
    (h : Dispatched catalog st answer)
    (hnext : ∀ given st', Leads catalog st st' → (∀ e, given = .error e → Raises catalog st e) →
      Dispatched catalog st (next given st')) :
    Dispatched catalog st (resume answer next) := by
  obtain ⟨outcome, st'⟩ := answer
  cases outcome with
  | ok a => exact hnext (.ok a) st' h.leads fun e he => nomatch he
  | error fault =>
    cases fault with
    | error e =>
      refine hnext (.error e) st' h.leads fun e' he' => h.raises e' ?_
      cases he'
      rfl
    | handlerBroke => exact ⟨h.leads, fun e he => nomatch he⟩
    | tooDeep => exact ⟨h.leads, fun e he => nomatch he⟩

/-- A call of the session, with its answer in whatever shape. -/
theorem dispatched_ofSession (wrap : α → β) (call : SessionCall) {result : Session.Result α}
    (hafter : result.2 = (st.session.perform catalog st.shared call).2)
    (herror : ∀ e, result.1 = .error (.error e) →
      (st.session.perform catalog st.shared call).1 = .error (.error e)) :
    Dispatched catalog st (st.ofSession wrap result) := by
  obtain ⟨outcome, session, shared⟩ := result
  have hcalled : (st.ofSession wrap (outcome, session, shared)).2 = st.called catalog call := by
    unfold called ofSession
    rw [← hafter]
  refine ⟨hcalled ▸ .single (.called st call), fun e he => ?_⟩
  exact .call .refl (herror e (Outcome.error_of_map he))

/-- A script does nothing but its calls. Each error that one of them answers with may be passed on
later. -/
theorem dispatched_carryOut {start : MapperState} {script : Script}
    {dispatch : String → List Arg → MapperState → Outcome MapperResult × MapperState}
    (hdispatch : ∀ method args st, Dispatched catalog st (dispatch method args st))
    (hfails : script.FailsBy (Raises catalog start)) (hleads : Leads catalog start st) :
    Dispatched catalog start (carryOut catalog dispatch script st) := by
  induction script generalizing st with
  | answer result =>
    refine ⟨hleads, fun e he => hfails e ?_⟩
    cases result with
    | ok r => cases he
    | error e' =>
      cases he
      rfl
  | invoke method args next ih =>
    refine ((hdispatch method args st).after hleads).resume fun given st' hleads' hraises => ?_
    exact ih given ((hfails given).imp fun e he => he.elim id (hraises e)) hleads'
  | call call next ih =>
    have hcalled : Dispatched catalog st
        (st.ofSession id (st.session.perform catalog st.shared call)) :=
      dispatched_ofSession id call rfl fun e he => he
    refine (hcalled.after hleads).resume fun given st' hleads' hraises => ?_
    exact ih given ((hfails given).imp fun e he => he.elim id (hraises e)) hleads'
  | observe next ih => exact ih _ _ (hfails _ _) hleads

theorem dispatched_execute (m : MapperMethod) (args : List Arg) :
    Dispatched catalog st (st.ofSession id (m.execute catalog args st.session st.shared)) := by
  unfold MapperMethod.execute
  cases hplan : m.plan args with
  | error e =>
    refine ⟨.refl, fun e' he' => ?_⟩
    cases he'
    exact .own (MapperMethod.ofMapper_of_plan hplan)
  | ok call => exact dispatched_ofSession id call rfl fun e he => Outcome.error_of_map he

theorem not_mem_of_objectMethod? {interface : String}
    (h : proxy.objectMethod? interface method args = none) : method ∉ objectMethods := by
  unfold MapperProxy.objectMethod? at h
  split_ifs at h with h1 h2 h3
  simp [objectMethods, h1, h2, h3]

/-- A proxy answers itself without doing anything, and may only find too many or too few
arguments. -/
theorem dispatched_objectMethod {interface : String} {result : Except Error MapperResult}
    (h : proxy.objectMethod? interface method args = some result) :
    Dispatched catalog st (Outcome.ofExcept result, st) := by
  have hargs : ∀ {expected : Nat} {answer : MapperResult} {e : Error},
      Outcome.ofExcept (MapperProxy.expectArgs method expected args answer) =
        .error (.error e) → Raises catalog st e := by
    intro expected answer e he
    unfold MapperProxy.expectArgs at he
    split_ifs at he
    · cases he
    · cases he
      exact .own rfl
  refine ⟨.refl, fun e he => ?_⟩
  unfold MapperProxy.objectMethod? at h
  split_ifs at h
  · cases h
    exact hargs he
  · cases h
    exact hargs he
  · cases h
    exact hargs he

/-- Every dispatch is a sequence of such things, however deep default bodies call each other. -/
theorem dispatched_invoke (catalog : Catalog) (proxy : MapperProxy) (room : Nat)
    (method : String) (args : List Arg) (st : MapperState) :
    Dispatched catalog st (invoke catalog proxy room method args st) := by
  induction room using Nat.strong_induction_on generalizing method args st with
  | _ room ih =>
    unfold invoke
    cases hobject : proxy.objectMethod? st.factory.interface.name method args with
    | some result => exact dispatched_objectMethod hobject
    | none =>
      have hleads : Leads catalog st (st.resolved catalog method) :=
        .single (.resolved st (not_mem_of_objectMethod? hobject))
      unfold resolved at hleads
      dsimp only
      generalize st.factory.invoker catalog method = found at hleads
      obtain ⟨invoker, factory⟩ := found
      cases invoker with
      | error cause =>
        refine ⟨hleads, fun e he => ?_⟩
        cases he
        exact .own rfl
      | ok invoker =>
        cases invoker with
        | plain m => exact (dispatched_execute m args).after hleads
        | default body =>
          cases room with
          | zero => exact ⟨hleads, fun e he => nomatch he⟩
          | succ room =>
            have hdispatch := ih room (Nat.lt_succ_self room)
            have hfails : (body.script factory.interface.name args).FailsBy (Raises catalog st) :=
              (body.failsBy factory.interface.name args).imp fun e he => .own he
            exact dispatched_carryOut hdispatch hfails hleads

/-- A body goes on after a call that has failed, and the proxy answers its next call itself. -/
example :
    let body : DefaultBody :=
      { script := fun _ _ => .invoke "missing" [] fun _ => .invoke "to_string" [] .answer
        failsBy := fun _ _ _ _ _ h => .inr h }
    let described : MethodSignature := { name := "describe", returns := .one, body := .default body }
    let st : MapperState :=
      { factory := { interface := { name := "a", methods := [described] } }
        session := { executor := .direct { environment := "" }, autoCommit := false }
        shared := {} }
    let answer := invoke {} ⟨.standalone 0, 0⟩ 1 "describe" [] st
    (answer.1.toOption.bind fun r => r.toOne.toOption) = some (some (.text "MapperProxy(a)@0")) ∧
      answer.2.factory.invokers.names = ["describe"] := by
  decide +kernel

/-! ## Room for default bodies -/

theorem resume_of_tooDeep {answer : Outcome α × MapperState} (h : answer.1 = .error .tooDeep)
    (next : Except Error α → MapperState → Outcome β × MapperState) :
    (resume answer next).1 = .error .tooDeep := by
  obtain ⟨outcome, st⟩ := answer
  cases h
  rfl

theorem resume_congr {answer : Outcome α × MapperState}
    {next next' : Except Error α → MapperState → Outcome β × MapperState}
    (hnext : ∀ given st, (next given st).1 ≠ .error .tooDeep → next' given st = next given st)
    (h : (resume answer next).1 ≠ .error .tooDeep) : resume answer next' = resume answer next := by
  obtain ⟨outcome, st⟩ := answer
  cases outcome with
  | ok a => exact hnext _ st h
  | error fault =>
    cases fault with
    | error e => exact hnext _ st h
    | handlerBroke => rfl
    | tooDeep => rfl

/-- A script that was carried out is not told apart by calls that went too deep. -/
theorem carryOut_congr
    {dispatch dispatch' : String → List Arg → MapperState → Outcome MapperResult × MapperState}
    (hdispatch : ∀ method args st, (dispatch method args st).1 ≠ .error .tooDeep →
      dispatch' method args st = dispatch method args st) {script : Script}
    (h : (carryOut catalog dispatch script st).1 ≠ .error .tooDeep) :
    carryOut catalog dispatch' script st = carryOut catalog dispatch script st := by
  induction script generalizing st with
  | answer result => rfl
  | invoke method args next ih =>
    have hcall : (dispatch method args st).1 ≠ .error .tooDeep :=
      fun hdeep => h (resume_of_tooDeep hdeep _)
    unfold carryOut
    rw [hdispatch method args st hcall]
    exact resume_congr (fun given st => ih given) h
  | call call next ih => exact resume_congr (fun given st => ih given) h
  | observe next ih => exact ih _ _ h

/-- More room changes nothing for a call that had enough of it. -/
theorem invoke_of_le {room room' : Nat} (hle : room ≤ room')
    (henough : (invoke catalog proxy room method args st).1 ≠ .error .tooDeep) :
    invoke catalog proxy room' method args st = invoke catalog proxy room method args st := by
  induction room using Nat.strong_induction_on generalizing room' method args st with
  | _ room ih =>
    unfold invoke at henough ⊢
    cases hobject : proxy.objectMethod? st.factory.interface.name method args with
    | some result => rfl
    | none =>
      rw [hobject] at henough
      dsimp only at henough ⊢
      generalize st.factory.invoker catalog method = found at henough ⊢
      obtain ⟨invoker, factory⟩ := found
      cases invoker with
      | error cause => rfl
      | ok invoker =>
        cases invoker with
        | plain m => rfl
        | default body =>
          cases room with
          | zero => exact absurd rfl henough
          | succ room =>
            obtain ⟨room', rfl⟩ : ∃ k, room' = k + 1 := ⟨room' - 1, by omega⟩
            exact carryOut_congr
              (fun method args st => ih room (Nat.lt_succ_self room) (Nat.le_of_succ_le_succ hle))
              henough

end MapperState

end DataMapper
