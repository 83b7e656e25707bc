import DataMapper.Proofs.Executor.Provenance
import DataMapper.Proofs.Session.Errors
import DataMapper.Proofs.Session.Sealing
import DataMapper.Proofs.System.Closing
import DataMapper.Proofs.System.Mappers
import DataMapper.Proofs.System.OpenWrites
import Mathlib.Data.List.Induction
/-!
# Sealed sessions in a run

A session that a handler has sealed stays as it was until its end, which still closes the
connection. Whether this end rolls back or publishes what is staged was decided by the writes that
the session had attempted since it last committed or rolled back.
-/

namespace DataMapper

namespace Session

variable {s : Session} {catalog : Catalog} {shared : Shared} {call : SessionCall}

/-- An unsealed session takes up a write of a known statement, whether it fails or not. -/
def Attempts (s : Session) (catalog : Catalog) (call : SessionCall) : Prop :=
  s.poisoned = false ∧ ∃ id, call.written? = some id ∧ catalog.hasStatement id = true

/-- The session commits successfully, or it takes up a rollback, whether it fails or not. -/
def Settles (s : Session) (catalog : Catalog) (shared : Shared) : SessionCall → Prop
  | .commit force => ∃ answer, (s.perform catalog shared (.commit force)).1 = .ok answer
  | .rollback _ => s.poisoned = false
  | _ => False

theorem dirty_perform_eq (s : Session) (catalog : Catalog) (shared : Shared)
    (call : SessionCall) :
    (s.perform catalog shared call).2.1.dirty =
      match s.request catalog call with
      | .error _ => s.dirty
      | .ok request => call.dirtyAfter (s.executor.perform shared request).1 s.dirty := by
  rw [perform_eq]
  cases s.request catalog call <;> rfl

theorem dirty_perform_of_written (hsealed : s.poisoned = false) {id : String}
    (hcall : call.written? = some id) :
    (s.perform catalog shared call).2.1.dirty = true ↔
      s.Attempts catalog call ∨ s.dirty = true := by
  obtain ⟨parameter, hrequest, hdirty⟩ := request_of_written hcall
  have hattempts : s.Attempts catalog call ↔ catalog.hasStatement id = true := by
    unfold Attempts
    simp [hsealed, hcall]
  rw [dirty_perform_eq, hrequest s catalog, hattempts]
  unfold named Catalog.statement Catalog.hasStatement NameMap.contains
  cases catalog.statements.get? id with
  | none => exact (or_iff_right Bool.false_ne_true).symm
  | some statement =>
    dsimp only
    rw [unsealed_eq hsealed]
    exact iff_of_true (hdirty _ _) (.inl rfl)

theorem dirty_perform_of_commit (hsealed : s.poisoned = false) (force : Bool) :
    (s.perform catalog shared (.commit force)).2.1.dirty = true ↔
      s.dirty = true ∧ ¬ s.Settles catalog shared (.commit force) := by
  have hrequest : s.request catalog (.commit force) =
      .ok (.commit (s.boundaryRequired force)) := unsealed_eq hsealed _
  unfold Settles
  dsimp only
  rw [perform_eq, hrequest]
  unfold served after
  dsimp only
  cases (s.executor.perform shared (.commit (s.boundaryRequired force))).1 with
  | error fault =>
    refine (and_iff_left ?_).symm
    rintro ⟨_, hanswer⟩
    cases hanswer
  | ok reply =>
    have hsettles : ∃ answer, (Except.ok reply : Outcome ExecutorReply).bind
        (SessionCall.commit force).answer = .ok answer := by
      cases reply <;> exact ⟨_, rfl⟩
    exact iff_of_false Bool.false_ne_true fun h => h.2 hsettles

theorem not_attempts (hcall : call.written? = none) : ¬ s.Attempts catalog call := by
  rintro ⟨_, id, hid, _⟩
  cases hcall.symm.trans hid

/-- A session counts as written by the writes that it attempts, and no longer by what settles
them. -/
theorem dirty_perform_iff (hsealed : s.poisoned = false) (hcloses : call ≠ .close) :
    (s.perform catalog shared call).2.1.dirty = true ↔
      s.Attempts catalog call ∨ s.dirty = true ∧ ¬ s.Settles catalog shared call := by
  cases call with
  | insert id parameter => exact (dirty_perform_of_written hsealed rfl).trans (by simp [Settles])
  | update id parameter => exact (dirty_perform_of_written hsealed rfl).trans (by simp [Settles])
  | delete id parameter => exact (dirty_perform_of_written hsealed rfl).trans (by simp [Settles])
  | close => exact absurd rfl hcloses
  | commit force => rw [dirty_perform_of_commit hsealed, or_iff_right (not_attempts rfl)]
  | rollback force =>
    have hrequest : s.request catalog (.rollback force) =
        .ok (.rollback (s.boundaryRequired force)) := unsealed_eq hsealed _
    rw [dirty_perform_eq, hrequest, or_iff_right (not_attempts rfl)]
    exact iff_of_false Bool.false_ne_true fun h => h.2 hsealed
  | _ =>
    rw [dirty_perform_eq, or_iff_right (not_attempts rfl)]
    refine Iff.trans ?_ (and_iff_left id).symm
    split <;> rfl

theorem not_attempts_of_sealed (h : s.poisoned = true) : ¬ s.Attempts catalog call :=
  fun ha => nomatch h.symm.trans ha.1

theorem not_settles_of_sealed (h : s.poisoned = true) : ¬ s.Settles catalog shared call := by
  unfold Settles
  cases call with
  | commit force =>
    dsimp only
    rw [perform_of_sealed h]
    exact fun hsettles => nomatch hsettles
  | rollback force => exact fun hsettles => nomatch h.symm.trans hsettles
  | _ => exact id

end Session

namespace System

variable {s t : System} {a : Nat} {P Q : System → Step → Prop} {events : List Event} {step : Step}

/-! ## What is outstanding -/

/-- Some step among the events is of the first kind, and none after it is of the second. -/
def Outstanding (P Q : System → Step → Prop) (s : System) : List Event → Prop
  | [] => False
  | .step step :: rest =>
    P s step ∧ (s.step step).2.Throughout (fun s step => ¬ Q s step) rest ∨
      (s.step step).2.Outstanding P Q rest
  | .refuse r calls :: rest => (s.refuse r calls).Outstanding P Q rest

theorem throughout_concat (s : System) (events : List Event) (step : Step) :
    s.Throughout P (events ++ [.step step]) ↔ s.Throughout P events ∧ P (s.after events) step := by
  induction events generalizing s with
  | nil => exact and_comm
  | cons event rest ih =>
    cases event with
    | step first => exact (and_congr_right fun _ => ih (s.step first).2).trans and_assoc.symm
    | refuse r calls => exact ih (s.refuse r calls)

theorem throughout_concat_refuse (s : System) (events : List Event) (r : RegionRef)
    (calls : List RegionCall) :
    s.Throughout P (events ++ [.refuse r calls]) ↔ s.Throughout P events := by
  induction events generalizing s with
  | nil => rfl
  | cons event rest ih =>
    cases event with
    | step first => exact and_congr_right fun _ => ih (s.step first).2
    | refuse r' calls' => exact ih (s.refuse r' calls')

theorem outstanding_concat (s : System) (events : List Event) (step : Step) :
    s.Outstanding P Q (events ++ [.step step]) ↔
      P (s.after events) step ∨ s.Outstanding P Q events ∧ ¬ Q (s.after events) step := by
  induction events generalizing s with
  | nil => exact ⟨fun h => .inl (h.resolve_right id).1,
      fun h => .inl ⟨h.resolve_right And.left, trivial⟩⟩
  | cons event rest ih =>
    cases event with
    | step first =>
      have hsince := (s.step first).2.throughout_concat (P := fun s step => ¬ Q s step) rest step
      have hrest := ih (s.step first).2
      rw [List.cons_append, Outstanding, Outstanding, hsince, hrest]
      change _ ↔ P ((s.step first).2.after rest) step ∨ _ ∧ ¬ Q ((s.step first).2.after rest) step
      tauto
    | refuse r calls => exact ih (s.refuse r calls)

theorem outstanding_concat_refuse (s : System) (events : List Event) (r : RegionRef)
    (calls : List RegionCall) :
    s.Outstanding P Q (events ++ [.refuse r calls]) ↔ s.Outstanding P Q events := by
  induction events generalizing s with
  | nil => rfl
  | cons event rest ih =>
    cases event with
    | step first =>
      have hsince := (s.step first).2.throughout_concat_refuse (P := fun s step => ¬ Q s step) rest
      exact or_congr (and_congr_right fun _ => hsince r calls) (ih (s.step first).2)
    | refuse r' calls' => exact ih (s.refuse r' calls')

/-- The step is such a call of the session. -/
def Calls (P : Session → SessionCall → Prop) (s : System) (a : Nat) (step : Step) : Prop :=
  ∃ session call, step = .call a call ∧ s.sessions.get? a = some session ∧ P session call

/-- The step is a write that the session attempts. -/
def Attempts (s : System) (a : Nat) (step : Step) : Prop :=
  s.Calls (·.Attempts s.configuration.toCatalog) a step

/-- The step is a successful commit of the session, or a rollback that it takes up. -/
def Settles (s : System) (a : Nat) (step : Step) : Prop :=
  s.Calls (·.Settles s.configuration.toCatalog s.shared) a step

/-- The session has attempted a write since its last successful commit or its last rollback. -/
def Unsettled (s : System) (a : Nat) (events : List Event) : Prop :=
  s.Outstanding (fun s => s.Attempts a) (fun s => s.Settles a) events

theorem calls_call {P : Session → SessionCall → Prop} {session : Session}
    (hsession : s.sessions.get? a = some session) (call : SessionCall) :
    s.Calls P a (.call a call) ↔ P session call := by
  constructor
  · rintro ⟨session', call', hcall, hsession', h⟩
    cases hcall
    obtain rfl : session = session' := Option.some.inj (hsession.symm.trans hsession')
    exact h
  · exact fun h => ⟨session, call, rfl, hsession, h⟩

/-- Steps that are no calls of the session leave its writes as unsettled as they were. -/
theorem unsettled_concat_of_other
    (h : ∀ session call, step = .call a call → (s.after events).sessions.get? a ≠ some session) :
    s.Unsettled a (events ++ [.step step]) ↔ s.Unsettled a events := by
  have hother : ∀ P, ¬ (s.after events).Calls P a step := by
    rintro P ⟨session, call, hcall, hsession, -⟩
    exact h session call hcall hsession
  unfold Unsettled
  rw [outstanding_concat]
  exact (or_iff_right (hother _)).trans (and_iff_left (hother _))

/-- A session that a step opens has written nothing. -/
theorem Coherent.not_dirty_of_unopened (h : s.Coherent) (ha : s.opened ≤ a) {session : Session}
    (hsession : (s.step step).2.sessions.get? a = some session) : session.dirty = false := by
  have hlt : a < (s.step step).2.opened := (h.step step a session hsession).1
  cases hown : step.session? with
  | some b =>
    rw [opened_of_session? hown] at hlt
    exact absurd hlt (Nat.not_lt.2 ha)
  | none =>
    cases step with
    | openSession mode =>
      unfold System.step System.openSession at hsession hlt
      dsimp only at hsession hlt
      split_ifs at hsession hlt
      · exact absurd hlt (Nat.not_lt.2 ha)
      · obtain rfl : a = s.opened := Nat.le_antisymm (Nat.lt_succ_iff.1 hlt) ha
        dsimp only at hsession
        rw [Table.get?_insert_self] at hsession
        cases hsession
        rfl
    | call id call => cases hown
    | dropSession id => cases hown
    | _ => exact absurd hlt (Nat.not_lt.2 ha)

/-- The session, as long as its connection is open, counts as written exactly if it has attempted a
write that is not settled. -/
structure KeepsTrack (s : System) (a : Nat) (events : List Event) : Prop where
  written : ∀ session, (s.after events).sessions.get? a = some session →
    session.executor.isClosed = false → (session.dirty = true ↔ s.Unsettled a events)
  unopened : (s.after events).opened ≤ a → ¬ s.Unsettled a events

theorem after_concat (s : System) (events : List Event) (event : Event) :
    s.after (events ++ [event]) = (s.after events).happen event :=
  s.after_append events [event]

/-- A step that is no call of the session changes its writes only by opening or ending it. -/
theorem KeepsTrack.concat_other (h : s.KeepsTrack a events) (hcoherent : (s.after events).Coherent)
    (hstep : ∀ session call, step = .call a call →
      (s.after events).sessions.get? a ≠ some session) :
    s.KeepsTrack a (events ++ [.step step]) := by
  have hunsettled := unsettled_concat_of_other hstep
  have hopened := (s.after events).opened_step step
  refine ⟨fun session hsession hopen => ?_, fun hle => ?_⟩
  · rw [after_concat] at hsession
    rw [hunsettled]
    -- Either the session was there before, or this step opens it, and it has written nothing yet.
    by_cases hlt : a < (s.after events).opened
    · have hkept : (s.after events).sessions.get? a = some session := by
        by_cases hown : step.session? = some a
        · cases step with
          | call id call =>
            obtain rfl : id = a := Option.some.inj hown
            cases hold : (s.after events).sessions.get? id with
            | some old => exact absurd hold (hstep old call rfl)
            | none =>
              rw [happen, step_of_none rfl hold, hold] at hsession
              cases hsession
          | dropSession id =>
            obtain rfl : id = a := Option.some.inj hown
            cases (get?_dropSession _ _).symm.trans hsession
          | _ => cases hown
        · exact (get?_of_other hown hlt).symm.trans hsession
      exact h.written session hkept hopen
    · have hle := Nat.le_of_not_lt hlt
      have hfresh := hcoherent.not_dirty_of_unopened hle hsession
      rw [hfresh]
      exact iff_of_false Bool.false_ne_true (h.unopened hle)
  · rw [after_concat] at hle
    rw [hunsettled]
    exact h.unopened (Nat.le_trans hopened hle)

theorem KeepsTrack.concat_call (h : s.KeepsTrack a events) (hcoherent : (s.after events).Coherent)
    {session : Session} (hsession : (s.after events).sessions.get? a = some session)
    (call : SessionCall) : s.KeepsTrack a (events ++ [.step (.call a call)]) := by
  have hunsettled : s.Unsettled a (events ++ [.step (.call a call)]) ↔
      session.Attempts (s.after events).configuration.toCatalog call ∨ s.Unsettled a events ∧
        ¬ session.Settles (s.after events).configuration.toCatalog (s.after events).shared
          call := by
    unfold Unsettled
    rw [outstanding_concat]
    exact or_congr (calls_call hsession call)
      (and_congr_right fun _ => not_congr (calls_call hsession call))
  refine ⟨fun session' hsession' hopen' => ?_, fun hle => ?_⟩
  · rw [after_concat, happen, get?_call hsession] at hsession'
    cases hsession'
    -- Writes are tracked over an open connection only, and a call that closes leaves none.
    by_cases hcloses : session.Closes call
    · rw [(Session.perform_of_closes hcloses).1] at hopen'
      cases hopen'
    · have hopen : session.executor.isClosed = false :=
        (Session.keepsOpen_perform hcloses).closed.symm.trans hopen'
      rw [hunsettled, ← h.written session hsession hopen]
      cases hsealed : session.poisoned with
      | true =>
        rw [Session.perform_of_sealed hsealed,
          or_iff_right (Session.not_attempts_of_sealed hsealed),
          and_iff_left (Session.not_settles_of_sealed hsealed)]
      | false =>
        exact Session.dirty_perform_iff hsealed fun hcall => hcloses ⟨hcall, hsealed⟩
  · have hlt : a < (s.after events).opened := (hcoherent a session hsession).1
    rw [after_concat] at hle
    exact absurd (Nat.le_trans ((s.after events).opened_step _) hle) (Nat.not_le.2 hlt)

theorem keepsTrack_of_empty (hsessions : s.sessions = .empty) (a : Nat) (events : List Event) :
    s.KeepsTrack a events := by
  -- What is unsettled is decided by the last event, so events are taken off the end.
  induction events using List.reverseRecOn with
  | nil =>
    refine ⟨fun session hsession => ?_, fun _ h => h⟩
    change s.sessions.get? a = some session at hsession
    rw [hsessions, Table.get?_empty] at hsession
    cases hsession
  | append_singleton events event ih =>
    have hcoherent := (coherent_of_empty hsessions).after events
    cases event with
    | refuse r calls =>
      have hunsettled : s.Unsettled a (events ++ [.refuse r calls]) ↔ s.Unsettled a events :=
        s.outstanding_concat_refuse events r calls
      refine ⟨fun session hsession hopen => ?_, fun hle => ?_⟩
      · rw [after_concat] at hsession
        rw [hunsettled]
        exact ih.written session hsession hopen
      · rw [after_concat] at hle
        rw [hunsettled]
        exact ih.unopened hle
    | step step =>
      by_cases hcall : ∃ session call, step = .call a call ∧
          (s.after events).sessions.get? a = some session
      · obtain ⟨session, call, rfl, hsession⟩ := hcall
        exact ih.concat_call hcoherent hsession call
      · exact ih.concat_other hcoherent fun session call hstep hsession =>
          hcall ⟨session, call, hstep, hsession⟩

/-! ## After the session is sealed -/

/-- A sealed session turns a call away, and no part of the system notices. -/
theorem step_call_of_sealed {session : Session} (hsession : s.sessions.get? a = some session)
    (hsealed : session.poisoned = true) (call : SessionCall) :
    s.step (.call a call) =
      (.answered (.error (.error (call.refusal s.configuration.toCatalog))), s) := by
  unfold System.step System.call
  dsimp only
  rw [hsession]
  dsimp only
  rw [Session.perform_of_sealed hsealed]
  dsimp only
  rw [Table.insert_of_get? hsession]

/-- A sealed session stays as it is until it is dropped. -/
theorem Coherent.get?_after_of_sealed (h : s.Coherent) {session : Session}
    (hsession : s.sessions.get? a = some session) (hsealed : session.poisoned = true)
    (hkept : .step (.dropSession a) ∉ events) :
    (s.after events).sessions.get? a = some session := by
  induction events generalizing s with
  | nil => exact hsession
  | cons event rest ih =>
    obtain ⟨hfirst, hrest⟩ := not_or.1 (mt List.mem_cons.2 hkept)
    refine ih (h.happen event) ?_ hrest
    cases event with
    | refuse r calls => exact hsession
    | step step =>
      by_cases hown : step.session? = some a
      · cases step with
        | call id call =>
          obtain rfl : id = a := Option.some.inj hown
          rw [System.happen, step_call_of_sealed hsession hsealed]
          exact hsession
        | dropSession id =>
          obtain rfl : id = a := Option.some.inj hown
          exact absurd rfl hfirst
        | _ => cases hown
      · exact (get?_of_other hown (h a session hsession).1).trans hsession

theorem configuration_after (s : System) (events : List Event) :
    (s.after events).configuration = s.configuration := by
  induction events generalizing s with
  | nil => rfl
  | cons event rest ih => exact (ih (s.happen event)).trans (s.mappers_happen event).1

/-- All that statements cache in is among the regions. -/
def CachesIn (s : System) (regions : List RegionRef) : Prop :=
  ∀ id statement, s.configuration.toCatalog.statement id = .ok statement →
    ∀ r, statement.cache = some r → r ∈ regions

theorem CachesIn.keeps {regions : List RegionRef} (h : s.CachesIn regions)
    (hsep : Separate regions) :
    s.configuration.toCatalog.Keeps (fun _ => True)
      fun session => session.executor.Every (·.Within regions) where
  resolved := fun _ _ => trivial
  opened := fun autoCommit => by
    unfold newExecutor
    dsimp only
    split_ifs
    · exact ⟨UnitOfWork.within_empty regions, trivial⟩
    · trivial
  called := fun hsession =>
    Session.every_perform (custody_within hsep)
      (fun id statement hfound r hr => ⟨h id statement hfound r hr, fun _ => trivial⟩) hsession

/-- Whatever a session has staged is staged for regions that statements cache in. -/
theorem CachesIn.within {regions : List RegionRef} (h : s.CachesIn regions)
    (hsep : Separate regions) (hsessions : s.sessions = .empty) {session : Session}
    (hsession : (s.after events).sessions.get? a = some session) :
    session.executor.work.Within regions := by
  have hstart : s.Upholds (fun _ => True)
      fun session => session.executor.Every (·.Within regions) := by
    refine ⟨fun _ _ _ => trivial, fun _ _ => trivial, fun id session hfirst => ?_⟩
    rw [hsessions, Table.get?_empty] at hfirst
    cases hfirst
  have hacted : s.acted (events.map .event) = s.after events := List.foldl_map
  have hevery := (hstart.acted (h.keeps hsep) (events.map .event)).sessions a session
    (hacted ▸ hsession)
  cases hx : session.executor with
  | direct c => exact UnitOfWork.within_empty regions
  | caching work delegate =>
    rw [hx] at hevery
    exact hevery.1

end System

/-- A select of one session, whose handler is to break down, what happens before it, and what
happens since. -/
structure Breakdown where
  session : Nat
  id : String
  parameter : Value
  bounds : RowBounds
  handler : Handler
  before : List Event
  since : List Event

namespace Breakdown

variable (b : Breakdown) (s : System)

def select : Step :=
  .call b.session (.select b.id b.parameter b.bounds b.handler)

/-- The system that the select meets. -/
def atSelect : System :=
  s.after b.before

/-- The system that the select leaves. -/
def broken : System :=
  ((b.atSelect s).step b.select).2

/-- The system after all that has happened since. -/
def now : System :=
  (b.broken s).after b.since

def history : List Event :=
  b.before ++ .step b.select :: b.since

/-- In a run that starts without sessions, the handler breaks down, and the session is not dropped
yet. -/
structure Seals : Prop where
  sessions : s.sessions = .empty
  broke : ((b.atSelect s).step b.select).1 = .answered (.error .handlerBroke)
  kept : .step (.dropSession b.session) ∉ b.since

/-- The session is as the select has left it. It turns all calls away, which change nothing. Once it
is dropped, its connection is closed, after a rollback exactly if one is forced, and otherwise the
regions get what the session has staged. -/
structure StaysSealed (session : Session) (forced : Bool) : Prop where
  left : (b.broken s).sessions.get? b.session = some session
  kept : (b.now s).sessions.get? b.session = some session
  isDirty : session.isDirty = .error Session.poisonedError
  isClosed : session.isClosed = .error Session.poisonedError
  refuses : ∀ call, (b.now s).step (.call b.session call) =
    (.answered (.error (.error (call.refusal s.configuration.toCatalog))), b.now s)
  forced_iff : forced = true ↔
    session.autoCommit = false ∧ s.Unsettled b.session b.history
  ends : session.Ends forced (b.now s).shared
    ((b.now s).step (.dropSession b.session)).2.shared
  publishes : forced = false → ∀ regions, Separate regions → s.CachesIn regions →
    (∀ r ∈ regions, (b.now s).shared.regions.InMemory r) →
      ∀ r ∈ regions,
        ((b.now s).step (.dropSession b.session)).2.shared.regions.contents r =
          session.executor.work.overlay r ((b.now s).shared.regions.contents r)

variable {b s}

theorem after_history : s.after b.history = b.now s :=
  s.after_append b.before (.step b.select :: b.since)

/-- The handler has broken down in a call of a session that has an open connection. -/
theorem Seals.exists_session (h : b.Seals s) :
    ∃ session, (b.broken s).sessions.get? b.session = some session ∧
      session.poisoned = true ∧ session.executor.isClosed = false := by
  cases hsession : (b.atSelect s).sessions.get? b.session with
  | none =>
    have hnone : ((b.atSelect s).step b.select).1 = .noSession := by
      unfold select System.step System.call
      dsimp only
      rw [hsession]
    cases hnone.symm.trans h.broke
  | some session =>
    have hanswer := (System.step_call hsession _).1.symm.trans h.broke
    obtain ⟨hopen, hsealed⟩ := Session.sealed_of_broken_select (Reply.answered.inj hanswer)
    have hcloses : ¬ session.Closes (.select b.id b.parameter b.bounds b.handler) :=
      fun hcloses => nomatch hcloses.1
    exact ⟨_, System.get?_call hsession _, hsealed,
      (Session.keepsOpen_perform hcloses).closed.trans hopen⟩

/-- Once a handler has broken down, the session turns everything away until it is dropped. Whether
its end rolls back depends on the writes that it had attempted since it was last settled. -/
theorem sealed_session_is_left_to_its_end (h : b.Seals s) :
    ∃ session forced, b.StaysSealed s session forced := by
  obtain ⟨session, hleft, hsealed, hopen⟩ := h.exists_session
  have hcoherent : (b.broken s).Coherent :=
    ((System.coherent_of_empty h.sessions).after b.before).step b.select
  have hkept : (b.now s).sessions.get? b.session = some session :=
    hcoherent.get?_after_of_sealed hleft hsealed h.kept
  have hcatalog : (b.now s).configuration = s.configuration := by
    rw [← after_history, System.configuration_after]
  have hkept' : (s.after b.history).sessions.get? b.session = some session :=
    after_history ▸ hkept
  have hwritten : session.dirty = true ↔ s.Unsettled b.session b.history :=
    (System.keepsTrack_of_empty h.sessions b.session b.history).written session hkept' hopen
  have hends : session.Ends (session.boundaryRequired false) (b.now s).shared
      ((b.now s).step (.dropSession b.session)).2.shared := by
    rw [System.shared_dropSession hkept]
    exact Session.ends_drop (hcoherent.after b.since b.session session hkept).2 hopen _
  refine ⟨session, session.boundaryRequired false, hleft, hkept, ?_, ?_, fun call => ?_, ?_, hends,
    fun hforced regions hsep hcaches hmemory r hr => ?_⟩
  · exact if_pos hsealed
  · exact if_pos hsealed
  · rw [System.step_call_of_sealed hkept hsealed, hcatalog]
  · rw [← hwritten]
    unfold Session.boundaryRequired
    simp
  · have hwithin := hcaches.within hsep h.sessions hkept'
    obtain ⟨store, hcommit, hcontents, -⟩ := hwithin.commitAll_eq hsep hmemory
    rw [hends.regions, hforced, if_neg Bool.false_ne_true, hcommit]
    exact hcontents r hr

/-- A session writes, and then its handler breaks down at the first row. -/
def afterWrite : Breakdown where
  session := 0
  id := "find"
  parameter := .null
  bounds := .all
  handler := { id := 0, capacity := some 0 }
  before := [.step (.openSession (some false)), .step (.call 0 (.update "touch" .null))]
  since := [.step (.openSession none), .step (.call 0 (.commit true))]

theorem seals_afterWrite : afterWrite.Seals (System.ofOneRegion [.int 1]) where
  sessions := rfl
  broke := rfl
  kept := by simp [afterWrite]

/-- The commit is turned away, and the write is rolled back in the end. -/
theorem sealed_write_is_rolled_back :
    let s := System.ofOneRegion [.int 1]
    let ended := ((afterWrite.now s).step (.dropSession afterWrite.session)).2
    (∃ session, afterWrite.StaysSealed s session true) ∧ ended.shared.source.rollbacks = 1 := by
  intro s ended
  obtain ⟨session, forced, hsealed⟩ := sealed_session_is_left_to_its_end seals_afterWrite
  have hmode : ((afterWrite.broken s).sessions.get? 0).map Session.autoCommit = some false := rfl
  have hmanual : some session.autoCommit = some false :=
    (congrArg (Option.map Session.autoCommit) hsealed.left).symm.trans hmode
  have hopened : (s.after [.step (.openSession (some false))]).sessions.get? 0 =
      some { executor := System.newExecutor {}, autoCommit := false } := rfl
  have hunsettled : s.Unsettled 0 afterWrite.history := by
    refine .inr (.inl ⟨?_, ?_, ?_, ?_, trivial⟩)
    · exact (System.calls_call hopened (.update "touch" .null)).2
        ⟨rfl, "touch", rfl, by decide +kernel⟩
    · rintro ⟨_, _, ⟨⟩, _, ⟨⟩⟩
    · rintro ⟨_, _, ⟨⟩, _⟩
    · rintro ⟨last, _, ⟨⟩, hlast, hcommits⟩
      have hpoisoned : some last.poisoned = some true :=
        (congrArg (Option.map Session.poisoned) hlast).symm.trans rfl
      exact Session.not_settles_of_sealed (Option.some.inj hpoisoned) hcommits
  obtain rfl : forced = true := hsealed.forced_iff.2 ⟨Option.some.inj hmanual, hunsettled⟩
  refine ⟨⟨session, hsealed⟩, ?_⟩
  rw [hsealed.ends.rollbacks]
  decide +kernel

end Breakdown

end DataMapper
