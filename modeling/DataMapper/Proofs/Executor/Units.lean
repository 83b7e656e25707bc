import DataMapper.Proofs.Executor.Holds
import DataMapper.Proofs.Staging.Batches
/-!
# Units of work under the calls of executors

A call of an executor publishes its unit of work, undoes it, or keeps of it whatever clearing,
looking up and staging keep. Regions that refuse a batch make no difference to this.
-/

namespace DataMapper

/-- A property that no edit of a unit of work ends. -/
structure UnitOfWork.Lasting (P : UnitOfWork → Prop) : Prop where
  clear : ∀ {u u' : UnitOfWork} {r : RegionRef}, P u → u.clear r = .ok u' → P u'
  get : ∀ {u : UnitOfWork} (store : RegionStore) (r : RegionRef) (key : CacheKey), P u →
    P (u.get store r key).2.1
  put : ∀ {u u' : UnitOfWork} {r : RegionRef} {key : CacheKey} {rows : Rows}, P u →
    u.put r key rows = .ok u' → P u'

theorem UnitOfWork.lasting_true : UnitOfWork.Lasting fun _ => True :=
  ⟨fun _ _ => trivial, fun _ _ _ _ => trivial, fun _ _ => trivial⟩

/-- The call rolls back what is staged. -/
def ExecutorCall.Undoes : ExecutorCall → Prop
  | .rollback required => required = true
  | .close forceRollback => forceRollback = true
  | _ => False

namespace Executor

variable {x : Executor} {s : Shared} {call : ExecutorCall} {P : UnitOfWork → Prop} {cached : Bool}

/-- A connection, behind one cache or behind none. -/
inductive Simple : Bool → Executor → Prop where
  | direct (c : Connection) : Simple false (direct c)
  | caching (work : UnitOfWork) (c : Connection) : Simple true (caching work (direct c))

/-! ## Selects -/

theorem lasting_flushIfRequired (hP : UnitOfWork.Lasting P) {work flushed : UnitOfWork}
    (hwork : P work) {statement : MappedStatement}
    (h : flushIfRequired work statement = .ok flushed) : P flushed := by
  unfold flushIfRequired at h
  split at h
  · exact Except.ok.inj h ▸ hwork
  · split_ifs at h
    · exact hP.clear hwork h
    · exact Except.ok.inj h ▸ hwork

/-- What a select leaves: a unit of work that has been edited, over a connection as open as
before. -/
structure Edits (P : UnitOfWork → Prop) (cached closed : Bool) (x : Executor) : Prop where
  simple : x.Simple cached
  work : P x.work
  closed : x.isClosed = closed

theorem edits_passed (work : UnitOfWork) (hwork : P work) (c : Connection)
    (statement : MappedStatement) (parameter : Value) (bounds : RowBounds)
    (handler : Option Handler) (key : CacheKey) (s : Shared) :
    Edits P true c.closed
      (passed work ((direct c).queryWithKey statement parameter bounds handler key s)).2.1 := by
  obtain ⟨_, c₁, _, hquery, hc₁, _⟩ :=
    direct_queryWithKey_shape c statement parameter bounds handler key s
  rw [hquery]
  exact ⟨.caching work c₁, hwork, hc₁.closed⟩

theorem edits_queryWithKey (hP : UnitOfWork.Lasting P) (hx : x.Simple cached) (hwork : P x.work)
    (statement : MappedStatement) (parameter : Value) (bounds : RowBounds)
    (handler : Option Handler) (key : CacheKey) (s : Shared) :
    Edits P cached x.isClosed (x.queryWithKey statement parameter bounds handler key s).2.1 := by
  cases hx with
  | direct c =>
    obtain ⟨_, c₁, _, hquery, hc₁, _⟩ :=
      direct_queryWithKey_shape c statement parameter bounds handler key s
    rw [hquery]
    exact ⟨.direct c₁, hwork, hc₁.closed⟩
  | caching work c =>
    cases hcache : statement.cache with
    | none =>
      rw [queryWithKey_of_uncached work _ parameter bounds handler key s hcache]
      exact edits_passed work hwork c statement parameter bounds handler key s
    | some region =>
      cases hflush : flushIfRequired work statement with
      | error e =>
        rw [queryWithKey, hcache]
        simp only [hflush]
        exact ⟨.caching work c, hwork, rfl⟩
      | ok flushed =>
        have hflushed : P flushed := lasting_flushIfRequired hP hwork hflush
        by_cases hpass : (!statement.useCache || handler.isSome) = true
        · rw [queryWithKey_of_passed _ parameter bounds key s hcache hflush hpass]
          exact edits_passed flushed hflushed c statement parameter bounds handler key s
        · obtain ⟨huse, rfl⟩ : statement.useCache = true ∧ handler = none := by simpa using hpass
          cases hout : statement.hasOutParams with
          | true =>
            rw [queryWithKey_of_outParams _ parameter bounds key s hcache hflush huse hout]
            exact ⟨.caching flushed c, hflushed, rfl⟩
          | false =>
            have hlooked := hP.get s.regions region key hflushed
            rw [queryWithKey_eq_lookedUp _ parameter bounds key s hcache hflush huse hout]
            generalize flushed.get s.regions region key = looked at hlooked
            obtain ⟨found, looked, regions⟩ := looked
            cases found with
            | error e => exact ⟨.caching looked c, hlooked, rfl⟩
            | ok found =>
              cases found with
              | hit rows => exact ⟨.caching looked c, hlooked, rfl⟩
              | miss =>
                obtain ⟨outcome, c₁, s₁, hfetch, hc₁, _⟩ :=
                  direct_queryWithKey_shape c statement parameter bounds none key
                    { s with regions }
                unfold lookedUp
                dsimp only
                rw [hfetch]
                cases outcome with
                | error fault => exact ⟨.caching looked c₁, hlooked, hc₁.closed⟩
                | ok rows =>
                  dsimp only
                  cases hput : looked.put region key rows with
                  | error e => exact ⟨.caching looked c₁, hlooked, hc₁.closed⟩
                  | ok staged => exact ⟨.caching staged c₁, hP.put hlooked hput, hc₁.closed⟩

/-! ## Calls that neither publish nor undo -/

theorem edits_queryCursor (hP : UnitOfWork.Lasting P) (hx : x.Simple cached) (hwork : P x.work)
    (statement : MappedStatement) (parameter : Value) (bounds : RowBounds) (s : Shared) :
    Edits P cached x.isClosed (x.queryCursor statement parameter bounds s).2.1 := by
  cases hx with
  | direct c => exact ⟨.direct c, hwork, rfl⟩
  | caching work c =>
    unfold queryCursor
    cases hflush : flushIfRequired work statement with
    | error e => exact ⟨.caching work c, hwork, rfl⟩
    | ok flushed => exact ⟨.caching flushed c, lasting_flushIfRequired hP hwork hflush, rfl⟩

theorem edits_update (hP : UnitOfWork.Lasting P) (hx : x.Simple cached) (hwork : P x.work)
    (statement : MappedStatement) (parameter : Value) (s : Shared) :
    Edits P cached x.isClosed (x.update statement parameter s).2.1 := by
  have hclosed : ∀ c : Connection, (c.update s.source statement parameter).2.1.closed = c.closed :=
    fun c => (c.update_keeps s.source statement parameter).1.closed
  cases hx with
  | direct c => exact ⟨.direct _, hwork, hclosed c⟩
  | caching work c =>
    unfold update
    cases hflush : flushIfRequired work statement with
    | error e => exact ⟨.caching work c, hwork, rfl⟩
    | ok flushed => exact ⟨.caching flushed _, lasting_flushIfRequired hP hwork hflush, hclosed c⟩

theorem edits_perform (hP : UnitOfWork.Lasting P) (hx : x.Simple cached) (hwork : P x.work)
    (hpublishes : ¬ call.Publishes x s.source) (hundoes : ¬ call.Undoes) :
    Edits P cached x.isClosed (x.perform s call).2.1 := by
  cases call with
  | query statement parameter bounds handler =>
    unfold perform query
    dsimp only
    cases x.keyFor statement parameter bounds with
    | error e => exact ⟨hx, hwork, rfl⟩
    | ok key => exact edits_queryWithKey hP hx hwork statement parameter bounds handler key s
  | queryCursor statement parameter bounds =>
    exact edits_queryCursor hP hx hwork statement parameter bounds s
  | update statement parameter => exact edits_update hP hx hwork statement parameter s
  | flushStatements =>
    cases hx with
    | direct c => exact ⟨.direct c, hwork, rfl⟩
    | caching work c => exact ⟨.caching work c, hwork, rfl⟩
  | commit required =>
    have hclosed : ∀ c : Connection, (c.commit s.source required).2.1.closed = c.closed :=
      fun c => (c.commit_keeps s.source required).1.closed
    cases hx with
    | direct c => exact ⟨.direct _, hwork, hclosed c⟩
    | caching work c =>
      unfold perform
      dsimp only
      rw [commit_of_not_made work (x := direct c) hpublishes]
      exact ⟨.caching work _, hwork, hclosed c⟩
  | rollback required =>
    obtain rfl : required = false := by simpa [ExecutorCall.Undoes] using hundoes
    have hclosed : ∀ c : Connection, (c.rollback s.source false).2.1.closed = c.closed :=
      fun c => (c.rollback_keeps s.source false).1.closed
    cases hx with
    | direct c => exact ⟨.direct _, hwork, hclosed c⟩
    | caching work c => exact ⟨.caching work _, hwork, hclosed c⟩
  | close forceRollback =>
    cases forceRollback with
    | false => exact absurd rfl hpublishes
    | true => exact absurd rfl hundoes
  | clearLocalCache =>
    cases hx with
    | direct c => exact ⟨.direct _, hwork, rfl⟩
    | caching work c => exact ⟨.caching work _, hwork, rfl⟩

theorem eq_ok_of_reply {α : Type} {wrap : α → ExecutorReply}
    {result : Except Error α × Executor × Shared} {answer : ExecutorReply}
    (h : (reply wrap result).1 = .ok answer) : ∃ a, result.1 = .ok a := by
  obtain ⟨outcome, x, s⟩ := result
  cases outcome with
  | error e => cases h
  | ok a => exact ⟨a, rfl⟩

/-- Only an open connection takes a write. -/
theorem isClosed_of_update (hx : x.Simple cached) {statement : MappedStatement}
    {parameter : Value} {answer : ExecutorReply}
    (h : (x.perform s (.update statement parameter)).1 = .ok answer) : x.isClosed = false := by
  have hopen : ∀ c : Connection, ∀ n, (c.update s.source statement parameter).1 = .ok n →
      c.closed = false := by
    intro c n hn
    unfold Connection.update at hn
    split_ifs at hn with hclosed
    exact Bool.not_eq_true _ ▸ hclosed
  obtain ⟨n, hn⟩ := eq_ok_of_reply h
  cases hx with
  | direct c => exact hopen c n hn
  | caching work c =>
    unfold update at hn
    cases hflush : flushIfRequired work statement with
    | error e =>
      rw [hflush] at hn
      cases hn
    | ok flushed =>
      rw [hflush] at hn
      exact hopen c n hn

/-! ## Calls that publish -/

/-- What a call that publishes leaves: every view has been attempted and nothing is staged, and if
the call succeeds then no region has refused its batch. -/
structure Published (cached : Bool) (u : UnitOfWork) (s : Shared) (p : Result ExecutorReply) :
    Prop where
  simple : p.2.1.Simple cached
  work : p.2.1.work = u.rollbackAll
  regions : p.2.2.regions = (UnitOfWork.publishAll u.views.entries s.regions).2
  accepted : ∀ answer, p.1 = .ok answer → (UnitOfWork.publishAll u.views.entries s.regions).1 = []

theorem joinClose_eq_ok {closed published : Except Error Unit}
    (h : joinClose closed published = .ok ()) : published = .ok () := by
  cases published with
  | ok u => rfl
  | error e => cases closed <;> cases h

theorem published_perform (hx : x.Simple cached) (hcall : call.Publishes x s.source) :
    Published cached x.work s (x.perform s call) := by
  cases hx with
  | direct c =>
    cases call with
    | commit required => exact ⟨.direct _, rfl, rfl, fun _ _ => rfl⟩
    | close forceRollback => exact ⟨.direct _, rfl, rfl, fun _ _ => rfl⟩
    | _ => exact hcall.elim
  | caching work c =>
    have hcommitted := work.commitAll_snd s.regions
    cases call with
    | commit required =>
      have hregions : ((direct c).commit required s).2.2.regions = s.regions := rfl
      have hcommit := commit_of_made work (x := direct c) (s := s) hcall
      rw [hregions] at hcommit
      unfold perform
      dsimp only
      rw [hcommit]
      refine ⟨.caching _ _, congrArg Prod.fst hcommitted, congrArg Prod.snd hcommitted, ?_⟩
      intro answer hanswer
      refine UnitOfWork.publishAll_of_commitAll ?_
      obtain ⟨made, hmade⟩ := eq_ok_of_reply hanswer
      cases hresult : (work.commitAll s.regions).1 with
      | ok u => exact hresult
      | error e =>
        rw [hresult] at hmade
        cases hmade
    | close forceRollback =>
      obtain rfl : forceRollback = false := hcall
      refine ⟨.caching _ _, congrArg Prod.fst hcommitted, congrArg Prod.snd hcommitted, ?_⟩
      intro answer hanswer
      obtain ⟨u, hclosed⟩ := eq_ok_of_reply hanswer
      exact UnitOfWork.publishAll_of_commitAll (joinClose_eq_ok hclosed)
    | _ => exact hcall.elim

/-- A required commit that succeeds has reached the source. -/
theorem made_of_commit (hx : x.Simple cached) {answer : ExecutorReply}
    (h : (x.perform s (.commit true)).1 = .ok answer) :
    (x.connection.commit s.source true).1 = .ok true := by
  have hmade : ∀ c : Connection, ∀ b, (c.commit s.source true).1 = .ok b →
      (c.commit s.source true).1 = .ok true := by
    intro c b hb
    cases b with
    | true => exact hb
    | false => exact absurd hb (c.required_commit_ne s.source)
  obtain ⟨b, hb⟩ := eq_ok_of_reply h
  cases hx with
  | direct c => exact hmade c b hb
  | caching work c =>
    by_cases hcommit : ((direct c).commit true s).1 = .ok true
    · exact hcommit
    · rw [commit_of_not_made work hcommit] at hb
      exact hmade c b hb

theorem commits_perform (hx : x.Simple cached) {required : Bool}
    (h : (x.connection.commit s.source required).1 = .ok true) :
    s.source.commits < (x.perform s (.commit required)).2.2.source.commits := by
  have hcommits : ∀ c : Connection, (c.commit s.source required).1 = .ok true →
      s.source.commits < (c.commit s.source required).2.2.commits := by
    intro c hc
    unfold Connection.commit at hc ⊢
    by_cases hclosed : c.closed = true
    · rw [if_pos hclosed] at hc
      cases hc
    · by_cases hrequired : (!required) = true
      · rw [if_neg hclosed, if_pos hrequired] at hc
        cases hc
      · by_cases hfails : s.source.fails .commit = true
        · rw [if_neg hclosed, if_neg hrequired, if_pos hfails] at hc
          cases hc
        · rw [if_neg hclosed, if_neg hrequired, if_neg hfails]
          exact Nat.lt_succ_self _
  cases hx with
  | direct c => exact hcommits c h
  | caching work c =>
    unfold perform
    dsimp only
    rw [commit_of_made work (x := direct c) h]
    exact hcommits c h

/-! ## Calls that undo -/

theorem undone_perform (hx : x.Simple cached) (hcall : call.Undoes) :
    (x.perform s call).2.1.Simple cached ∧ (x.perform s call).2.1.work = x.work.rollbackAll := by
  cases call with
  | rollback required =>
    obtain rfl : required = true := hcall
    cases hx with
    | direct c => exact ⟨.direct _, rfl⟩
    | caching work c => exact ⟨.caching _ _, rfl⟩
  | close forceRollback =>
    obtain rfl : forceRollback = true := hcall
    cases hx with
    | direct c => exact ⟨.direct _, rfl⟩
    | caching work c => exact ⟨.caching _ _, rfl⟩
  | _ => exact hcall.elim

/-- An open connection that undoes has rolled back, or failed to. -/
theorem rolledBack_perform (hx : x.Simple cached) (hopen : x.isClosed = false)
    (hcall : call.Undoes) :
    s.source.fails .rollback = true ∨
      s.source.rollbacks < (x.perform s call).2.2.source.rollbacks := by
  have hrollback : ∀ c : Connection, c.closed = false → s.source.fails .rollback = true ∨
      s.source.rollbacks < (c.rollback s.source true).2.2.rollbacks := by
    intro c hc
    cases hfails : s.source.fails .rollback with
    | true => exact .inl rfl
    | false =>
      right
      simp [Connection.rollback, hc, hfails]
  have hclose : ∀ c : Connection, c.closed = false → s.source.fails .rollback = true ∨
      s.source.rollbacks < (c.close s.source true).2.2.rollbacks := by
    intro c hc
    have hrolled : (c.close s.source true).2.2.rollbacks =
        (c.rollback s.source true).2.2.rollbacks := by
      simp [Connection.close, hc]
    rw [hrolled]
    exact hrollback c hc
  cases call with
  | rollback required =>
    obtain rfl : required = true := hcall
    cases hx with
    | direct c => exact hrollback c hopen
    | caching work c => exact hrollback c hopen
  | close forceRollback =>
    obtain rfl : forceRollback = true := hcall
    cases hx with
    | direct c => exact hclose c hopen
    | caching work c => exact hclose c hopen
  | _ => exact hcall.elim

/-! ## All calls -/

theorem Simple.perform (hx : x.Simple cached) : (x.perform s call).2.1.Simple cached := by
  by_cases hpublishes : call.Publishes x s.source
  · exact (published_perform hx hpublishes).simple
  · by_cases hundoes : call.Undoes
    · exact (undone_perform hx hundoes).1
    · exact (edits_perform UnitOfWork.lasting_true hx trivial hpublishes hundoes).simple

end Executor

end DataMapper
