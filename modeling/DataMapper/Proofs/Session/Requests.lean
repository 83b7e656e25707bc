import DataMapper.Proofs.Executor.Calls
import DataMapper.Session
/-!
# Requests of sessions

Every call of a session is one call of its executor, between a lookup of the statement and an
update of two flags, or else it is turned away and nothing changes. What holds of all calls of an
executor so holds of all calls of a session.
-/

namespace DataMapper

namespace Session

/-- The request of an unsealed session. -/
def unsealed (s : Session) (request : ExecutorCall) : Except Error ExecutorCall :=
  if s.poisoned then .error poisonedError else .ok request

/-- The request of an unsealed session for a statement. -/
def named (s : Session) (catalog : Catalog) (id : String)
    (request : MappedStatement → ExecutorCall) : Except Error ExecutorCall :=
  match catalog.statement id with
  | .error e => .error (.binding e)
  | .ok statement => s.unsealed (request statement)

/-- What a call asks of the executor, or why it is turned away. -/
def request (s : Session) (catalog : Catalog) : SessionCall → Except Error ExecutorCall
  | .selectOne id parameter =>
    s.named catalog id fun statement => .query statement parameter .all none
  | .selectList id parameter bounds | .selectMap id parameter _ bounds =>
    s.named catalog id fun statement => .query statement parameter bounds none
  | .selectCursor id parameter bounds =>
    s.named catalog id fun statement => .queryCursor statement parameter bounds
  | .select id parameter bounds handler =>
    s.named catalog id fun statement => .query statement parameter bounds (some handler)
  | .insert id parameter | .update id parameter | .delete id parameter =>
    s.named catalog id fun statement => .update statement parameter
  | .commit force => s.unsealed (.commit (s.boundaryRequired force))
  | .rollback force => s.unsealed (.rollback (s.boundaryRequired force))
  | .flushStatements => s.unsealed .flushStatements
  | .close => s.unsealed (.close (s.boundaryRequired false))
  | .clearCache => s.unsealed .clearLocalCache

end Session

/-- Whether a session counts as written after a call. -/
def SessionCall.dirtyAfter (call : SessionCall) (outcome : Outcome ExecutorReply)
    (before : Bool) : Bool :=
  match call, outcome with
  | .insert .., _ | .update .., _ | .delete .., _ => true
  | .rollback _, _ | .close, _ | .commit _, .ok _ => false
  | _, _ => before

/-- The session after the executor has served a call. -/
def Session.after (s : Session) (call : SessionCall) (outcome : Outcome ExecutorReply)
    (x : Executor) : Session where
  executor := x
  autoCommit := s.autoCommit
  dirty := call.dirtyAfter outcome s.dirty
  poisoned := outcome.broke || s.poisoned

/-- Rows in a shape that they may not have. -/
def Outcome.ofShape {α : Type} : Except ResultError α → Outcome α
  | .ok a => .ok a
  | .error e => .error (.error (.result e))

/-- What a call makes of the reply of the executor. -/
def SessionCall.answer (call : SessionCall) (reply : ExecutorReply) : Outcome SessionReply :=
  match call, reply with
  | .selectOne id _, .rows rows => (Outcome.ofShape (Session.single id rows)).map .row
  | .selectList .., .rows rows => .ok (.rows rows)
  | .selectMap id _ key _, .rows rows =>
    (Outcome.ofShape (Session.keyBy id key rows .empty)).map .keyed
  | .selectCursor .., .rows rows => .ok (.cursor (.ofRows rows))
  | _, .count n => .ok (.count n)
  | _, _ => .ok .done

namespace Session

/-- A call whose request the executor serves. -/
def served (s : Session) (call : SessionCall) (shared : Shared) :
    Except Error ExecutorCall → Result SessionReply
  | .error e => (.error (.error e), s, shared)
  | .ok request =>
    let (outcome, x, shared) := s.executor.perform shared request
    (outcome.bind call.answer, s.after call outcome x, shared)

variable {α : Type}

/-- What comes after a call, if it hands on the errors of the call, is the same after a request that
is turned away. -/
theorem served_unsealed (s : Session) (call : SessionCall) (shared : Shared)
    {f : Result α → Result SessionReply} {body : Result α} {request : ExecutorCall}
    (herror : ∀ e, f (.error (.error e), s, shared) = (.error (.error e), s, shared))
    (h : f body = s.served call shared (.ok request)) :
    f (s.guarded shared body) = s.served call shared (s.unsealed request) := by
  unfold guarded unsealed
  split_ifs
  · exact herror poisonedError
  · exact h

theorem served_named (s : Session) (catalog : Catalog) (id : String) (call : SessionCall)
    (shared : Shared) {f : Result α → Result SessionReply} {body : MappedStatement → Result α}
    {request : MappedStatement → ExecutorCall}
    (herror : ∀ e, f (.error (.error e), s, shared) = (.error (.error e), s, shared))
    (h : ∀ statement, f (body statement) = s.served call shared (.ok (request statement))) :
    f (s.withStatement catalog id shared body) =
      s.served call shared (s.named catalog id request) := by
  unfold withStatement named
  cases catalog.statement id with
  | error e => exact herror (.binding e)
  | ok statement => exact s.served_unsealed call shared herror (h statement)

theorem sealedBy_eq (s : Session) (outcome : Outcome α) :
    sealedBy outcome s = { s with poisoned := outcome.broke || s.poisoned } := by
  cases outcome with
  | ok a => rfl
  | error fault => cases fault <;> rfl

/-- Rows that are handed on, or only looked at, are shaped without fail. -/
theorem shaped_ok (f : Rows → α) (result : Result Rows) :
    shaped (fun rows => .ok (f rows)) result = (result.1.map f, result.2) := by
  obtain ⟨outcome, s, shared⟩ := result
  cases outcome <;> rfl

/-- A call whose answer is a shape of the rows of a select. -/
theorem reply_shaped_query (s : Session) (call : SessionCall) (shared : Shared)
    (wrap : α → SessionReply) (shape : Rows → Except ResultError α) (statement : MappedStatement)
    (parameter : Value) (bounds : RowBounds) (handler : Option Handler)
    (hanswer : ∀ rows, call.answer (.rows rows) = (Outcome.ofShape (shape rows)).map wrap)
    (hdirty : ∀ outcome, call.dirtyAfter outcome s.dirty = s.dirty) :
    reply wrap (shaped shape (s.query statement parameter bounds handler shared)) =
      s.served call shared (.ok (.query statement parameter bounds handler)) := by
  unfold query served after Executor.perform
  dsimp only
  rw [sealedBy_eq, hdirty]
  generalize s.executor.query statement parameter bounds handler shared = p
  obtain ⟨outcome, x, shared'⟩ := p
  cases outcome with
  | error fault => cases fault <;> rfl
  | ok rows =>
    have hbind : ((Except.ok rows : Outcome Rows).map ExecutorReply.rows).bind call.answer =
        (Outcome.ofShape (shape rows)).map wrap := hanswer rows
    rw [hbind]
    unfold shaped Outcome.ofShape
    dsimp only
    cases shape rows <;> rfl

theorem reply_query (s : Session) (call : SessionCall) (shared : Shared)
    (wrap : α → SessionReply) (f : Rows → α) (statement : MappedStatement) (parameter : Value)
    (bounds : RowBounds) (handler : Option Handler)
    (hanswer : ∀ rows, call.answer (.rows rows) = .ok (wrap (f rows)))
    (hdirty : ∀ outcome, call.dirtyAfter outcome s.dirty = s.dirty) :
    reply wrap
        ((s.query statement parameter bounds handler shared).1.map f,
          (s.query statement parameter bounds handler shared).2) =
      s.served call shared (.ok (.query statement parameter bounds handler)) := by
  rw [← s.reply_shaped_query call shared wrap (fun rows => .ok (f rows)) statement parameter bounds
    handler hanswer hdirty, shaped_ok]

/-- A call that no handler can break. -/
theorem reply_ofExecutor (s : Session) (call : SessionCall) (shared : Shared)
    (wrap : α → SessionReply) (wrap' : α → ExecutorReply) {request : ExecutorCall}
    {result : Except Error α × Executor × Shared} {dirty : Bool}
    (hperform : s.executor.perform shared request = Executor.reply wrap' result)
    (hanswer : ∀ a, call.answer (wrap' a) = .ok (wrap a))
    (hdirty : ∀ outcome, call.dirtyAfter outcome s.dirty = dirty) :
    reply wrap ({ s with dirty }.ofExecutor result) = s.served call shared (.ok request) := by
  unfold served after
  dsimp only
  rw [hperform]
  unfold Executor.reply
  dsimp only
  rw [hdirty]
  obtain ⟨result, x, shared'⟩ := result
  cases result with
  | error e => rfl
  | ok a => exact Prod.ext (hanswer a).symm rfl

/-- The commit of a session, which stays written if the executor reports an error. -/
theorem reply_commit (s : Session) (force : Bool) (shared : Shared) :
    reply (fun () => .done)
        (match s.executor.commit (s.boundaryRequired force) shared with
        | (.error e, executor, shared) => (.error (.error e), { s with executor }, shared)
        | (.ok _, executor, shared) => (.ok (), { s with executor, dirty := false }, shared)) =
      s.served (.commit force) shared (.ok (.commit (s.boundaryRequired force))) := by
  unfold served Executor.perform Executor.reply
  dsimp only
  generalize s.executor.commit (s.boundaryRequired force) shared = p
  obtain ⟨made, x, shared'⟩ := p
  cases made <;> rfl

/-- A call of a session is its request, served by the executor. -/
theorem perform_eq (s : Session) (catalog : Catalog) (shared : Shared) (call : SessionCall) :
    s.perform catalog shared call = s.served call shared (s.request catalog call) := by
  have herror : ∀ {α : Type} (wrap : α → SessionReply) (e : Error),
      reply wrap (.error (.error e), s, shared) = (.error (.error e), s, shared) :=
    fun _ _ => rfl
  cases call with
  | selectOne id parameter =>
    let answered (result : Result Rows) := reply .row (shaped (single id) result)
    refine s.served_named catalog id _ shared (f := answered) (fun _ => rfl) fun statement => ?_
    exact s.reply_shaped_query (.selectOne id parameter) shared .row (single id) statement
      parameter .all none (fun _ => rfl) fun _ => rfl
  | selectList id parameter bounds =>
    refine s.served_named catalog id _ shared (herror _) fun statement => ?_
    rw [← s.reply_query (.selectList id parameter bounds) shared .rows (fun rows => rows)
      statement parameter bounds none (fun _ => rfl) fun _ => rfl]
    exact congrArg (fun outcome => reply .rows (outcome, _)) (congrFun Except.map_id _).symm
  | selectMap id parameter key bounds =>
    let shape (rows : Rows) := keyBy id key rows .empty
    let answered (result : Result Rows) := reply .keyed (shaped shape result)
    refine s.served_named catalog id _ shared (f := answered) (fun _ => rfl) fun statement => ?_
    exact s.reply_shaped_query (.selectMap id parameter key bounds) shared .keyed shape statement
      parameter bounds none (fun _ => rfl) fun _ => rfl
  | selectCursor id parameter bounds =>
    refine s.served_named catalog id _ shared (herror _) fun statement => ?_
    rw [← s.reply_ofExecutor (.selectCursor id parameter bounds) shared (.cursor ∘ Cursor.ofRows)
      .rows rfl (fun _ => rfl) fun _ => rfl]
    unfold reply ofExecutor
    dsimp only
    cases (s.executor.queryCursor statement parameter bounds shared).1 <;> rfl
  | select id parameter bounds handler =>
    refine s.served_named catalog id _ shared (herror _) fun statement => ?_
    rw [← s.reply_query (.select id parameter bounds handler) shared (fun () => .done)
      (fun _ => ()) statement parameter bounds (some handler) (fun _ => rfl) fun _ => rfl]
  | insert id parameter =>
    exact s.served_named catalog id _ shared (herror _) fun statement =>
      s.reply_ofExecutor _ shared .count .count rfl (fun _ => rfl) fun _ => rfl
  | update id parameter =>
    exact s.served_named catalog id _ shared (herror _) fun statement =>
      s.reply_ofExecutor _ shared .count .count rfl (fun _ => rfl) fun _ => rfl
  | delete id parameter =>
    exact s.served_named catalog id _ shared (herror _) fun statement =>
      s.reply_ofExecutor _ shared .count .count rfl (fun _ => rfl) fun _ => rfl
  | commit force =>
    exact s.served_unsealed _ shared (herror _) (s.reply_commit force shared)
  | rollback force =>
    exact s.served_unsealed _ shared (herror _)
      (s.reply_ofExecutor _ shared _ (fun () => .done) rfl (fun _ => rfl) fun _ => rfl)
  | flushStatements =>
    exact s.served_unsealed _ shared (herror _)
      (s.reply_ofExecutor _ shared _ (fun () => .done) rfl (fun _ => rfl) fun _ => rfl)
  | close =>
    exact s.served_unsealed _ shared (herror _)
      (s.reply_ofExecutor _ shared _ (fun () => .done) rfl (fun _ => rfl) fun _ => rfl)
  | clearCache => exact s.served_unsealed _ shared (herror _) rfl

end Session

end DataMapper
