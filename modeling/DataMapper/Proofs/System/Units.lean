import DataMapper.Proofs.Session.Units
import DataMapper.Proofs.System.Freshness
/-!
# Units of work in a run

Each step publishes the unit of work of one session, undoes it, or leaves it what it was up to
edits. Hence every key that a region holds was put there by a view that some step has published.
-/

namespace DataMapper

namespace System

variable {s : System} {a : Nat} {session : Session} {r : RegionRef} {key : CacheKey}
  {P : UnitOfWork → Prop}

/-- The step rolls back what its session has staged. -/
def Undoes (s : System) : Step → Prop
  | .call id call =>
    match s.sessions.get? id with
    | none => False
    | some session => session.Undoes call
  | .dropSession id =>
    match s.sessions.get? id with
    | none => False
    | some session => session.UndoesAtEnd
  | _ => False

/-- The step publishes this view. -/
def Sends (s : System) (step : Step) (v : Staged) : Prop :=
  s.Publishes step ∧ ∃ a session id, step.session? = some a ∧ s.sessions.get? a = some session ∧
    session.executor.work.views.get? id = some v

/-- The step writes an entry under the key to the region. -/
def Writes (s : System) (r : RegionRef) (key : CacheKey) (step : Step) : Prop :=
  ∃ v, s.Sends step v ∧ v.Reaches s.shared.regions r ∧ v.batch.Puts key

/-- The region refuses what the step publishes to it. -/
def Refuses (s : System) (r : RegionRef) (step : Step) : Prop :=
  ∃ v, s.Sends step v ∧ v.region.slot = r.slot ∧ v.batch.isEmpty = false ∧
    ¬ s.shared.regions.Accepts v.region v.batch

/-- Sessions are numbered below the next one, and each runs on a connection of its own, behind a
cache if the settings say so. -/
def Coherent (s : System) : Prop :=
  ∀ id session, s.sessions.get? id = some session →
    id < s.opened ∧ session.executor.Simple s.configuration.settings.cacheEnabled

theorem coherent_of_empty (h : s.sessions = .empty) : s.Coherent := by
  intro id session hsession
  rw [h, Table.get?_empty] at hsession
  cases hsession

/-! ## What a step makes of its session -/

theorem undoes_call (hsession : s.sessions.get? a = some session) (call : SessionCall) :
    s.Undoes (.call a call) ↔ session.Undoes call := by
  unfold Undoes
  dsimp only
  rw [hsession]

theorem undoes_dropSession (hsession : s.sessions.get? a = some session) :
    s.Undoes (.dropSession a) ↔ session.UndoesAtEnd := by
  unfold Undoes
  dsimp only
  rw [hsession]

/-- Only a session undoes. -/
theorem exists_of_undoes {step : Step} (h : s.Undoes step) :
    ∃ a session, step.session? = some a ∧ s.sessions.get? a = some session := by
  unfold Undoes at h
  cases step with
  | call id call =>
    dsimp only at h
    cases hsession : s.sessions.get? id with
    | none =>
      rw [hsession] at h
      exact h.elim
    | some session => exact ⟨id, session, rfl, hsession⟩
  | dropSession id =>
    dsimp only at h
    cases hsession : s.sessions.get? id with
    | none =>
      rw [hsession] at h
      exact h.elim
    | some session => exact ⟨id, session, rfl, hsession⟩
  | _ => exact h.elim

theorem not_undoes_of_call {call : SessionCall} (h : ∀ session : Session, ¬ session.Undoes call) :
    ¬ s.Undoes (.call a call) := by
  intro hundoes
  obtain ⟨b, session, hown, hsession⟩ := exists_of_undoes hundoes
  obtain rfl : a = b := Option.some.inj hown
  exact h session ((undoes_call hsession call).1 hundoes)

theorem not_publishes_of_call {call : SessionCall}
    (h : ∀ session : Session, ¬ session.Publishes s.shared.source call) :
    ¬ s.Publishes (.call a call) := by
  intro hpublishes
  obtain ⟨b, session, hown, hsession⟩ := exists_of_publishes hpublishes
  obtain rfl : a = b := Option.some.inj hown
  exact h session ((publishes_call hsession call).1 hpublishes)

theorem get?_call (hsession : s.sessions.get? a = some session) (call : SessionCall) :
    (s.step (.call a call)).2.sessions.get? a =
      some (session.perform s.configuration.toCatalog s.shared call).2.1 := by
  unfold System.step System.call
  dsimp only
  rw [hsession]
  exact Table.get?_insert_self _ _ _

theorem get?_dropSession (s : System) (a : Nat) :
    (s.step (.dropSession a)).2.sessions.get? a = none := by
  unfold System.step System.dropSession
  dsimp only
  cases hsession : s.sessions.get? a with
  | none => exact hsession
  | some session =>
    dsimp only
    rw [Table.get?_erase, if_pos rfl]

theorem shared_dropSession (hsession : s.sessions.get? a = some session) :
    (s.step (.dropSession a)).2.shared = session.drop s.shared := by
  unfold System.step System.dropSession
  dsimp only
  rw [hsession]

/-- Steps that a session does not take leave it as it is. -/
theorem get?_of_other {step : Step} (hstep : step.session? ≠ some a) (hlt : a < s.opened) :
    (s.step step).2.sessions.get? a = s.sessions.get? a := by
  cases step with
  | openSession mode =>
    unfold System.step System.openSession
    dsimp only
    split_ifs
    · rfl
    · exact Table.get?_insert_of_ne _ _ (Nat.ne_of_lt hlt)
  | dropSession id =>
    have hne : a ≠ id := fun h => hstep (congrArg some h.symm)
    unfold System.step System.dropSession
    dsimp only
    cases s.sessions.get? id with
    | none => rfl
    | some session => exact (Table.get?_erase _ _ _).trans (if_neg hne)
  | call id call =>
    have hne : a ≠ id := fun h => hstep (congrArg some h.symm)
    unfold System.step System.call
    dsimp only
    cases s.sessions.get? id with
    | none => rfl
    | some session => exact Table.get?_insert_of_ne _ _ hne
  | _ => rfl

theorem Coherent.step (h : s.Coherent) (step : Step) : (s.step step).2.Coherent := by
  cases step with
  | openSession mode =>
    unfold System.step System.openSession
    dsimp only
    split_ifs
    · exact h
    · refine Table.forall_insert ⟨Nat.lt_succ_self _, ?_⟩ fun id session hsession =>
        ⟨Nat.lt_succ_of_lt (h id session hsession).1, (h id session hsession).2⟩
      dsimp only
      unfold newExecutor
      cases s.configuration.settings.cacheEnabled with
      | false => exact .direct _
      | true => exact .caching _ _
  | dropSession id =>
    unfold System.step System.dropSession
    dsimp only
    cases s.sessions.get? id with
    | none => exact h
    | some session => exact Table.forall_erase h
  | call id call =>
    unfold System.step System.call
    dsimp only
    cases hsession : s.sessions.get? id with
    | none => exact h
    | some session =>
      obtain ⟨hlt, hx⟩ := h id session hsession
      exact Table.forall_insert ⟨hlt, Session.simple_perform hx⟩ h
  | _ => exact h

/-- An open session keeps its unit of work, up to edits, in a step that neither publishes nor
undoes it. -/
theorem Coherent.retains_step (h : s.Coherent) (hP : UnitOfWork.Lasting P)
    (hsession : s.sessions.get? a = some session) (hopen : session.executor.isClosed = false)
    (hwork : P session.executor.work) {step : Step}
    (hstep : step.session? = some a → ¬ s.Publishes step ∧ ¬ s.Undoes step) :
    ∃ session', (s.step step).2.sessions.get? a = some session' ∧
      Session.Retains P s.configuration.settings.cacheEnabled session session' := by
  obtain ⟨hlt, hx⟩ := h a session hsession
  by_cases hown : step.session? = some a
  · obtain ⟨hpublishes, hundoes⟩ := hstep hown
    cases step with
    | call id call =>
      obtain rfl : id = a := Option.some.inj hown
      exact ⟨_, get?_call hsession call, Session.retains_perform hP hx hwork
        (mt (publishes_call hsession call).2 hpublishes) (mt (undoes_call hsession call).2 hundoes)⟩
    | dropSession id =>
      obtain rfl : id = a := Option.some.inj hown
      cases hrequired : session.boundaryRequired false with
      | false => exact absurd ((publishes_dropSession hsession).2 ⟨hopen, hrequired⟩) hpublishes
      | true => exact absurd ((undoes_dropSession hsession).2 ⟨hopen, hrequired⟩) hundoes
    | _ => cases hown
  · exact ⟨session, (get?_of_other hown hlt).trans hsession, .refl hx hwork⟩

/-- An open session of this kind has a unit of work with the property. -/
def Works (a : Nat) (Q : Session → Prop) (P : UnitOfWork → Prop) (s : System) : Prop :=
  ∃ session, s.sessions.get? a = some session ∧ session.executor.isClosed = false ∧ Q session ∧
    P session.executor.work

theorem Coherent.works_step (h : s.Coherent) (hP : UnitOfWork.Lasting P) {Q : Session → Prop}
    (hQ : ∀ cached session session', Session.Retains P cached session session' →
      Q session → Q session')
    (hworks : s.Works a Q P) {step : Step}
    (hstep : step.session? = some a → ¬ s.Publishes step ∧ ¬ s.Undoes step) :
    (s.step step).2.Works a Q P := by
  obtain ⟨session, hsession, hopen, hq, hwork⟩ := hworks
  obtain ⟨session', hsession', hretains⟩ := h.retains_step hP hsession hopen hwork hstep
  exact ⟨session', hsession', hretains.executor.closed.trans hopen, hQ _ _ _ hretains hq,
    hretains.executor.work⟩

/-! ## What a step makes of the regions -/

theorem Coherent.regions_of_publishes (h : s.Coherent) {step : Step} (hstep : s.Publishes step) :
    ∃ a session, step.session? = some a ∧ s.sessions.get? a = some session ∧
      (s.step step).2.shared.regions =
        (UnitOfWork.publishAll session.executor.work.views.entries s.shared.regions).2 ∧
      (∀ call, step = .call a call → (s.step step).1.succeeded = true →
        (UnitOfWork.publishAll session.executor.work.views.entries s.shared.regions).1 = []) := by
  obtain ⟨a, session, hown, hsession⟩ := exists_of_publishes hstep
  obtain ⟨_, hx⟩ := h a session hsession
  refine ⟨a, session, hown, hsession, ?_⟩
  cases step with
  | call id call =>
    obtain rfl : id = a := Option.some.inj hown
    obtain ⟨_, _, hregions, haccepted⟩ :=
      Session.published_perform hx ((publishes_call hsession call).1 hstep)
    obtain ⟨hreply, hshared⟩ := step_call hsession call
    refine ⟨by rw [hshared, hregions], fun _ _ hok => ?_⟩
    rw [hreply] at hok
    cases houtcome : (session.perform s.configuration.toCatalog s.shared call).1 with
    | error fault =>
      rw [houtcome] at hok
      cases hok
    | ok answer => exact haccepted answer houtcome
  | dropSession id =>
    obtain rfl : id = a := Option.some.inj hown
    have hends := (publishes_dropSession hsession).1 hstep
    rw [shared_dropSession hsession]
    exact ⟨Session.regions_drop_of_publishes hx hends, fun _ hcall => nomatch hcall⟩
  | _ => cases hown

/-- A key that a region holds after a step was written by it, or held before and not cleared. -/
theorem Coherent.contains_step (h : s.Coherent) {step : Step}
    (hkey : ((s.step step).2.shared.regions.storage r).contains key = true) :
    s.Writes r key step ∨ ((s.shared.regions.storage r).contains key = true ∧
      ∀ v, s.Sends step v → v.Reaches s.shared.regions r → v.clearOnCommit = false) := by
  by_cases hpublishes : s.Publishes step
  · obtain ⟨a, session, hown, hsession, hregions, _⟩ := h.regions_of_publishes hpublishes
    rw [hregions] at hkey
    rcases UnitOfWork.contains_publishAll hkey with ⟨e, he, hreaches, hputs⟩ | ⟨hheld, hclear⟩
    · have hview := (NameMap.get?_eq_some_iff _).2 he
      exact .inl ⟨e.2, ⟨hpublishes, a, session, e.1, hown, hsession, hview⟩, hreaches, hputs⟩
    · refine .inr ⟨hheld, fun v hv hreaches => ?_⟩
      obtain ⟨_, a', session', id, hown', hsession', hview⟩ := hv
      obtain rfl : a' = a := Option.some.inj (hown'.symm.trans hown)
      obtain rfl : session' = session := Option.some.inj (hsession'.symm.trans hsession)
      exact hclear (id, v) ((NameMap.get?_eq_some_iff _).1 hview) hreaches
  · rw [(sameEntries_step hpublishes).storage r] at hkey
    exact .inr ⟨hkey, fun v hv => absurd hv.1 hpublishes⟩

/-- A commit or close that succeeds has had all its batches taken. -/
theorem Coherent.not_refuses_of_succeeded (h : s.Coherent) {call : SessionCall}
    (hok : (s.step (.call a call)).1.succeeded = true) : ¬ s.Refuses r (.call a call) := by
  rintro ⟨v, ⟨hpublishes, a', session', id, hown', hsession', hview⟩, _, hempty, hrefused⟩
  obtain ⟨b, session, hown, hsession, _, haccepted⟩ := h.regions_of_publishes hpublishes
  obtain rfl : a' = b := Option.some.inj (hown'.symm.trans hown)
  obtain rfl : session' = session := Option.some.inj (hsession'.symm.trans hsession)
  obtain rfl : a = a' := Option.some.inj hown
  exact hrefused (UnitOfWork.accepts_of_publishAll (haccepted call rfl hok) (id, v)
    ((NameMap.get?_eq_some_iff _).1 hview) hempty)

theorem Coherent.sameLayout_step (h : s.Coherent) (step : Step) :
    (s.step step).2.shared.regions.SameLayout s.shared.regions := by
  by_cases hpublishes : s.Publishes step
  · obtain ⟨_, _, _, _, hregions, _⟩ := h.regions_of_publishes hpublishes
    rw [hregions]
    exact UnitOfWork.sameLayout_publishAll _ _
  · exact .of_sameEntries (sameEntries_step hpublishes)

end System

end DataMapper
