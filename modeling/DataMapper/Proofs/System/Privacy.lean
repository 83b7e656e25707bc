import DataMapper.Proofs.Session.Publication
import DataMapper.System
/-!
# Privacy of staged work

The entries of regions change only in a step that publishes. Until a session takes such a step of
its own, no answer to another session and no entry of a region depends on what it has staged.
-/

namespace DataMapper

/-- The session that a step is taken by. -/
def Step.session? : Step → Option Nat
  | .call id _ | .dropSession id => some id
  | _ => none

namespace System

variable {s t : System} {a : Nat}

/-- The step publishes what its session has staged: by a commit that the data source takes, or by a
close or an end with nothing to roll back. -/
def Publishes (s : System) : Step → Prop
  | .call id call =>
    match s.sessions.get? id with
    | none => False
    | some session => session.Publishes s.shared.source call
  | .dropSession id =>
    match s.sessions.get? id with
    | none => False
    | some session => session.PublishesAtEnd
  | _ => False

/-- What is said of a system and its next step holds all along the run. -/
def Always (P : System → Step → Prop) (s : System) : List Step → Prop
  | [] => True
  | step :: rest => P s step ∧ (s.step step).2.Always P rest

/-- No step of the session publishes in the course of the run. -/
def Withholds (s : System) (a : Nat) (steps : List Step) : Prop :=
  s.Always (fun s step => step.session? = some a → ¬ s.Publishes step) steps

/-- The answers to the steps that one session does not take. -/
def repliesToOthers (a : Nat) : List Step → List Reply → List Reply
  | step :: steps, reply :: replies =>
    if step.session? = some a then repliesToOthers a steps replies
    else reply :: repliesToOthers a steps replies
  | _, _ => []

/-- The system with another executor in one session. -/
def setExecutor (s : System) (a : Nat) (session : Session) (executor : Executor) : System :=
  { s with sessions := s.sessions.insert a { session with executor } }

/-! ## Steps that publish -/

theorem publishes_call {session : Session} (hsession : s.sessions.get? a = some session)
    (call : SessionCall) :
    s.Publishes (.call a call) ↔ session.Publishes s.shared.source call := by
  unfold Publishes
  dsimp only
  rw [hsession]

theorem publishes_dropSession {session : Session} (hsession : s.sessions.get? a = some session) :
    s.Publishes (.dropSession a) ↔ session.PublishesAtEnd := by
  unfold Publishes
  dsimp only
  rw [hsession]

/-- Only a session publishes. -/
theorem exists_of_publishes {step : Step} (h : s.Publishes step) :
    ∃ a session, step.session? = some a ∧ s.sessions.get? a = some session := by
  unfold Publishes at h
  cases step with
  | call id call =>
    dsimp only at h
    cases hsession : s.sessions.get? id with
    | none =>
      rw [hsession] at h
      exact h.elim
    | some session => exact ⟨id, session, rfl, hsession⟩
  | dropSession id =>
    dsimp only at h
    cases hsession : s.sessions.get? id with
    | none =>
      rw [hsession] at h
      exact h.elim
    | some session => exact ⟨id, session, rfl, hsession⟩
  | _ => exact h.elim

/-! ## Entries of regions -/

theorem sameEntries_step {step : Step} (h : ¬ s.Publishes step) :
    (s.step step).2.shared.regions.SameEntries s.shared.regions := by
  cases step with
  | openSession autoCommit =>
    unfold System.step openSession
    dsimp only
    split_ifs
    · exact .refl _
    · exact .refl _
  | dropSession id =>
    unfold Publishes at h
    unfold System.step dropSession
    dsimp only at h ⊢
    cases hsession : s.sessions.get? id with
    | none => exact .refl _
    | some session =>
      rw [hsession] at h
      exact session.sameEntries_drop s.shared h
  | call id call =>
    unfold Publishes at h
    unfold System.step System.call
    dsimp only at h ⊢
    cases hsession : s.sessions.get? id with
    | none => exact .refl _
    | some session =>
      rw [hsession] at h
      exact session.sameEntries_perform s.configuration.toCatalog s.shared h
  | setRows statement rows => exact .refl _
  | setAffected statement n => exact .refl _
  | fail point => exact .refl _
  | heal point => exact .refl _

/-! ## Systems that differ in what one session has staged -/

/-- Two systems that are alike, but for what one session has staged. -/
structure Veiled (a : Nat) (s t : System) : Prop where
  configuration : s.configuration = t.configuration
  opened : s.opened = t.opened
  shared : s.shared.Alike t.shared
  own : Option.Rel (Session.Related Executor.Restaged) (s.sessions.get? a) (t.sessions.get? a)
  others : ∀ id, id ≠ a →
    Option.Rel (Session.Related Executor.Alike) (s.sessions.get? id) (t.sessions.get? id)

/-- Changing one session on both sides keeps all others as they were. -/
theorem Veiled.insert (h : Veiled a s t) {id : Nat} {shared shared' : Shared}
    (hshared : shared.Alike shared') {session session' : Session}
    (hown : id = a → Session.Related Executor.Restaged session session')
    (hother : id ≠ a → Session.Related Executor.Alike session session') :
    Veiled a { s with shared, sessions := s.sessions.insert id session }
      { t with shared := shared', sessions := t.sessions.insert id session' } := by
  refine ⟨h.configuration, h.opened, hshared, ?_, fun id' hid' => ?_⟩
  · dsimp only
    rw [Table.get?_insert, Table.get?_insert]
    split_ifs with hid
    · exact .some (hown hid.symm)
    · exact h.own
  · dsimp only
    rw [Table.get?_insert, Table.get?_insert]
    split_ifs with hid
    · exact .some (hother (hid ▸ hid'))
    · exact h.others id' hid'

theorem Veiled.erase (h : Veiled a s t) (id : Nat) {shared shared' : Shared}
    (hshared : shared.Alike shared') :
    Veiled a { s with shared, sessions := s.sessions.erase id }
      { t with shared := shared', sessions := t.sessions.erase id } := by
  refine ⟨h.configuration, h.opened, hshared, ?_, fun id' hid' => ?_⟩
  · dsimp only
    rw [Table.get?_erase, Table.get?_erase]
    split_ifs
    · exact .none
    · exact h.own
  · dsimp only
    rw [Table.get?_erase, Table.get?_erase]
    split_ifs
    · exact .none
    · exact h.others id' hid'

theorem Veiled.modifySource (h : Veiled a s t) (f : DataSource → DataSource)
    (hf : (f s.shared.source).SameAnswers (f t.shared.source)) :
    Veiled a (s.modifySource f) (t.modifySource f) :=
  ⟨h.configuration, h.opened, ⟨⟨hf, h.shared.journal⟩, h.shared.regions⟩, h.own, h.others⟩

theorem Veiled.openSession (h : Veiled a s t) (autoCommit : Option Bool) :
    (s.openSession autoCommit).1 = (t.openSession autoCommit).1 ∧
      Veiled a (s.openSession autoCommit).2 (t.openSession autoCommit).2 := by
  have hcounted : ({ s.shared.source with opened := s.shared.source.opened + 1 } :
      DataSource).SameAnswers { t.shared.source with opened := t.shared.source.opened + 1 } :=
    ⟨h.shared.source.rows, h.shared.source.affected, h.shared.source.failing⟩
  have hshared := h.shared.withSource hcounted
  have hrefl : ∀ session : Session, Session.Related Executor.Alike session session :=
    fun session => ⟨.refl session.executor, rfl, rfl, rfl⟩
  have hown : ∀ session : Session, Session.Related Executor.Restaged session session :=
    fun session => ⟨.alike (.refl session.executor), rfl, rfl, rfl⟩
  unfold System.openSession
  dsimp only
  rw [h.shared.source.fails, h.configuration, h.opened]
  split_ifs
  · exact ⟨rfl, h⟩
  · obtain ⟨_, _, hafter, hself, hothers⟩ :=
      h.insert hshared (fun _ => hown _) (fun _ => hrefl _)
    exact ⟨rfl, rfl, rfl, hafter, hself, hothers⟩

theorem Veiled.dropSession (h : Veiled a s t) (id : Nat)
    (hstep : id = a → ¬ s.Publishes (.dropSession id)) :
    (s.dropSession id).1 = (t.dropSession id).1 ∧
      Veiled a (s.dropSession id).2 (t.dropSession id).2 := by
  unfold Publishes at hstep
  unfold System.dropSession
  dsimp only at hstep
  by_cases hid : id = a
  · subst hid
    have hown := h.own
    generalize s.sessions.get? id = own at hown hstep
    generalize t.sessions.get? id = own' at hown
    cases hown with
    | none => exact ⟨rfl, h⟩
    | some hrelated => exact ⟨rfl, h.erase id (hrelated.drop_restaged h.shared (hstep rfl))⟩
  · have hother := h.others id hid
    generalize s.sessions.get? id = other at hother
    generalize t.sessions.get? id = other' at hother
    cases hother with
    | none => exact ⟨rfl, h⟩
    | some hrelated => exact ⟨rfl, h.erase id (hrelated.drop_alike h.shared)⟩

theorem Veiled.call (h : Veiled a s t) (id : Nat) (call : SessionCall)
    (hstep : id = a → ¬ s.Publishes (.call id call)) :
    (id ≠ a → (s.call id call).1 = (t.call id call).1) ∧
      Veiled a (s.call id call).2 (t.call id call).2 := by
  unfold Publishes at hstep
  unfold System.call
  dsimp only at hstep
  rw [h.configuration]
  by_cases hid : id = a
  · subst hid
    have hown := h.own
    generalize s.sessions.get? id = own at hown hstep
    generalize t.sessions.get? id = own' at hown
    cases hown with
    | none => exact ⟨fun _ => rfl, h⟩
    | some hrelated =>
      obtain ⟨hafter, hshared⟩ :=
        hrelated.perform_restaged h.shared t.configuration.toCatalog (hstep rfl)
      have hveiled := h.insert hshared (fun _ => hafter) fun hne => absurd rfl hne
      exact ⟨fun hne => absurd rfl hne,
        ⟨rfl, hveiled.opened, hshared, hveiled.own, hveiled.others⟩⟩
  · have hother := h.others id hid
    generalize s.sessions.get? id = other at hother
    generalize t.sessions.get? id = other' at hother
    cases hother with
    | none => exact ⟨fun _ => rfl, h⟩
    | some hrelated =>
      obtain ⟨hanswer, hafter, hshared⟩ :=
        hrelated.perform_alike h.shared t.configuration.toCatalog call
      have hveiled := h.insert hshared (fun heq => absurd heq hid) fun _ => hafter
      exact ⟨fun _ => congrArg Reply.answered hanswer,
        ⟨rfl, hveiled.opened, hshared, hveiled.own, hveiled.others⟩⟩

/-- A step that does not publish what is staged keeps it hidden, and every other session gets the
same answer. -/
theorem Veiled.step (h : Veiled a s t) {step : Step}
    (hstep : step.session? = some a → ¬ s.Publishes step) :
    (step.session? ≠ some a → (s.step step).1 = (t.step step).1) ∧
      Veiled a (s.step step).2 (t.step step).2 := by
  cases step with
  | openSession autoCommit =>
    have hopen := h.openSession autoCommit
    exact ⟨fun _ => hopen.1, hopen.2⟩
  | dropSession id =>
    have hdrop := h.dropSession id fun hid => hstep (congrArg some hid)
    exact ⟨fun _ => hdrop.1, hdrop.2⟩
  | call id call =>
    have hcall := h.call id call fun hid => hstep (congrArg some hid)
    exact ⟨fun hne => hcall.1 fun hid => hne (congrArg some hid), hcall.2⟩
  | setRows statement rows =>
    have hsource := h.shared.source.setRows statement rows
    exact ⟨fun _ => rfl, h.modifySource (fun d => d.setRows statement rows) hsource⟩
  | setAffected statement n =>
    have hsource := h.shared.source.setAffected statement n
    exact ⟨fun _ => rfl, h.modifySource (fun d => d.setAffected statement n) hsource⟩
  | fail point =>
    have hsource := h.shared.source.fail point
    exact ⟨fun _ => rfl, h.modifySource (fun d => d.fail point) hsource⟩
  | heal point =>
    have hsource := h.shared.source.heal point
    exact ⟨fun _ => rfl, h.modifySource (fun d => d.heal point) hsource⟩

theorem Veiled.run (h : Veiled a s t) {steps : List Step} (hsteps : s.Withholds a steps) :
    repliesToOthers a steps (s.run steps).1 = repliesToOthers a steps (t.run steps).1 ∧
      Veiled a (s.run steps).2 (t.run steps).2 := by
  induction steps generalizing s t with
  | nil => exact ⟨rfl, h⟩
  | cons step rest ih =>
    obtain ⟨hstep, hrest⟩ := hsteps
    obtain ⟨hreply, hafter⟩ := h.step hstep
    obtain ⟨hreplies, hlast⟩ := ih hafter hrest
    refine ⟨?_, hlast⟩
    unfold System.run repliesToOthers
    split_ifs with hown
    · exact hreplies
    · rw [hreply hown, hreplies]

/-- A system is veiled against itself with other work staged in one session. -/
theorem veiled_setExecutor {session : Session} (hsession : s.sessions.get? a = some session)
    {executor : Executor} (hexecutor : session.executor.Restaged executor) :
    Veiled a s (s.setExecutor a session executor) := by
  refine ⟨rfl, rfl, .refl s.shared, ?_, fun id hid => ?_⟩
  · unfold setExecutor
    dsimp only
    rw [hsession, Table.get?_insert_self]
    exact .some ⟨hexecutor, rfl, rfl, rfl⟩
  · unfold setExecutor
    dsimp only
    rw [Table.get?_insert_of_ne _ _ hid]
    cases s.sessions.get? id with
    | none => exact .none
    | some other => exact .some ⟨.refl other.executor, rfl, rfl, rfl⟩

/-- The entries of regions change only in a step that publishes; and as long as a session takes no
such step, whatever else it had staged for the same regions would neither change an answer to
another session nor an entry. -/
theorem staged_work_is_private (s : System) :
    (∀ step, ¬ s.Publishes step →
      ∀ r, (s.step step).2.shared.regions.storage r = s.shared.regions.storage r) ∧
    ∀ (a : Nat) (session : Session) (work work' : UnitOfWork) (connection : Connection),
      s.sessions.get? a = some session →
      session.executor = .caching work (.direct connection) → work.SameRegions work' →
      ∀ steps, s.Withholds a steps →
        repliesToOthers a steps (s.run steps).1 =
            repliesToOthers a steps
              ((s.setExecutor a session (.caching work' (.direct connection))).run steps).1 ∧
          ∀ r, (s.run steps).2.shared.regions.storage r =
            ((s.setExecutor a session (.caching work' (.direct connection))).run
              steps).2.shared.regions.storage r := by
  refine ⟨fun step hstep r => (sameEntries_step hstep).storage r, ?_⟩
  intro a session work work' connection hsession hexecutor hwork steps hsteps
  have hrestaged : session.executor.Restaged (.caching work' (.direct connection)) :=
    hexecutor ▸ .caching hwork (.refl connection)
  obtain ⟨hreplies, hlast⟩ := (veiled_setExecutor hsession hrestaged).run hsteps
  exact ⟨hreplies, fun r => hlast.shared.regions.storage r⟩

/-! ## A system with one region -/

def users : RegionRef := ⟨0, "users"⟩

/-- A select that the region caches, and an update that flushes it. -/
def ofOneRegion (rows : Rows) : System where
  configuration :=
    { statements :=
        (NameMap.empty.insert "find" (.cachedSelect "find" users [])).insert "touch"
          (.flushingUpdate "touch" users) }
  shared :=
    { regions := (RegionStore.empty.openMemory "users").2
      source := DataSource.empty.setRows "find" rows }

/-- The connection of a session under default settings. -/
def defaultConnection : Connection :=
  { environment := "development" }

/-- A session that has staged this work, and nothing written. -/
def staging (work : UnitOfWork) : Session :=
  { executor := .caching work (.direct defaultConnection), autoCommit := false }

/-- Two sessions, the first of which has a clear pending. -/
def clearing : System :=
  { ofOneRegion [.int 1] with
    sessions :=
      (Table.empty.insert 0 (staging (UnitOfWork.empty.modify users .clear))).insert 1
        (staging .empty)
    opened := 2 }

/-- A clear stays private when the commit of its session has nothing to commit. -/
theorem pending_clear_is_private :
    let work := UnitOfWork.empty.modify users .clear
    let steps : List Step :=
      [.call 1 (.selectList "find" .null .all), .call 0 (.selectList "find" .null .all),
        .call 0 (.commit false), .call 1 (.selectList "find" .null .all)]
    let other := clearing.setExecutor 0 (staging work)
      (.caching work.rollbackAll (.direct defaultConnection))
    ¬ clearing.Publishes (.call 0 (.commit false)) ∧
      (clearing.step (.call 0 (.commit false))).2.shared.regions.storage users =
        clearing.shared.regions.storage users ∧
      clearing.Withholds 0 steps ∧
      repliesToOthers 0 steps (clearing.run steps).1 =
        repliesToOthers 0 steps (other.run steps).1 := by
  intro work steps other
  obtain ⟨hframe, hprivate⟩ := staged_work_is_private clearing
  have hcommit : ¬ clearing.Publishes (.call 0 (.commit false)) := fun h => nomatch h.2
  have hwork : work.SameRegions work.rollbackAll := work.sameRegions_rollbackAll.symm
  have hsteps : clearing.Withholds 0 steps := by
    refine ⟨?_, ?_, ?_, ?_, trivial⟩
    · exact fun h => nomatch h
    · exact fun _ h => h
    · exact fun _ h => nomatch h.2
    · exact fun h => nomatch h
  exact ⟨hcommit, hframe _ hcommit users, hsteps,
    (hprivate 0 (staging work) work _ defaultConnection rfl rfl hwork steps hsteps).1⟩

end System

end DataMapper
