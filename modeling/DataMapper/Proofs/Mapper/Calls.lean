import DataMapper.Proofs.Mapper.Bounds
/-!
# Calls of mapper methods

What a resolved method makes of its arguments, on whatever session it is called. Arguments that do
not fit the declaration come to nothing. All others come to one call of the session, and what that
call is answered with has the declared shape, because the method was checked when it was resolved.
-/

namespace DataMapper

/-! ## Anything that is called like a session -/

/-- The form in which a call of a session succeeds. -/
inductive SessionReply.Fits : SessionCall → SessionReply → Prop where
  | selectOne {id : String} {parameter : Value} (row : Option Value) :
    Fits (.selectOne id parameter) (.row row)
  | selectList {id : String} {parameter : Value} {bounds : RowBounds} (rows : Rows) :
    Fits (.selectList id parameter bounds) (.rows rows)
  | selectMap {id : String} {parameter : Value} {key : String} {bounds : RowBounds}
    (rows : KeyedRows) : Fits (.selectMap id parameter key bounds) (.keyed rows)
  | selectCursor {id : String} {parameter : Value} {bounds : RowBounds} (cursor : Cursor) :
    Fits (.selectCursor id parameter bounds) (.cursor cursor)
  | select {id : String} {parameter : Value} {bounds : RowBounds} {handler : Handler} :
    Fits (.select id parameter bounds handler) .done
  | insert {id : String} {parameter : Value} (n : Nat) : Fits (.insert id parameter) (.count n)
  | update {id : String} {parameter : Value} (n : Nat) : Fits (.update id parameter) (.count n)
  | delete {id : String} {parameter : Value} (n : Nat) : Fits (.delete id parameter) (.count n)
  | commit {force : Bool} : Fits (.commit force) .done
  | rollback {force : Bool} : Fits (.rollback force) .done
  | flushStatements : Fits .flushStatements .done
  | close : Fits .close .done
  | clearCache : Fits .clearCache .done

/-- Whatever the calls of a session can be made on, over states of its own. Nothing is said of its
answers but that those which succeed have the form of the call. What is called, and how often, shows
in the states, as there are servers that keep a record of their calls. -/
structure SessionServer (σ : Type) where
  perform : SessionCall → σ → Outcome SessionReply × σ
  fits : ∀ call s reply, (perform call s).1 = .ok reply → reply.Fits call

namespace Session

theorem exists_of_reply {α : Type} {wrap : α → SessionReply} {result : Result α}
    {answer : SessionReply} (h : (reply wrap result).1 = .ok answer) :
    ∃ a, answer = wrap a := by
  obtain ⟨outcome, s, shared⟩ := result
  cases outcome with
  | error fault => cases h
  | ok a =>
    cases h
    exact ⟨a, rfl⟩

theorem fits_of_perform {s : Session} {catalog : Catalog} {shared : Shared} {call : SessionCall}
    {answer : SessionReply} (h : (s.perform catalog shared call).1 = .ok answer) :
    answer.Fits call := by
  unfold perform at h
  cases call <;> obtain ⟨a, rfl⟩ := exists_of_reply h <;> constructor

/-- Sessions, with the state that they share. -/
def server (catalog : Catalog) : SessionServer (Session × Shared) where
  perform call state := state.1.perform catalog state.2 call
  fits _ _ _ h := fits_of_perform h

end Session

namespace MethodSignature

/-- What is wrong with the arguments of a call: their number, or else the kind of the first that is
not of the kind of its parameter. -/
inductive Mismatch (sig : MethodSignature) (args : List Arg) : BindingError → Prop where
  | count (h : args.length ≠ sig.params.length) :
    Mismatch sig args (.argumentCount sig.name sig.params.length args.length)
  | kind {index : Nat} {p : ParamSpec} {arg : Arg} (hlength : args.length = sig.params.length)
    (hp : sig.params[index]? = some p) (harg : args[index]? = some arg) (hkind : arg.kind ≠ p.kind)
    (first : (args.take index).map Arg.kind = (sig.params.take index).map ParamSpec.kind) :
    Mismatch sig args (.argumentKind sig.name index p.kind.describe)

/-- The bounds that are passed where they are declared, or else all rows. -/
def Bounded (sig : MethodSignature) (args : List Arg) (b : RowBounds) : Prop :=
  match sig.rowBoundsIndex? with
  | none => b = .all
  | some k => args[k]? = some (.bounds b)

/-- A handler that is passed where it is declared. -/
def Handled (sig : MethodSignature) (args : List Arg) (handler : Handler) : Prop :=
  ∃ k, sig.resultHandlerIndex? = some k ∧ args[k]? = some (.handler handler)

end MethodSignature

/-- The statement that a method without a default body runs. -/
inductive Command.Of (catalog : Catalog) (i : MapperInterface) (sig : MethodSignature) :
    Command → Prop where
  | flush (h : sig.body = .flush) : Of catalog i sig ⟨MapperMethod.defaultId i sig, .flush⟩
  | statement {id : Option String} {statement : MappedStatement} (h : sig.body = .statement id)
    (found : catalog.statement (id.getD (MapperMethod.defaultId i sig)) = .ok statement) :
    Of catalog i sig ⟨id.getD (MapperMethod.defaultId i sig), statement.commandType⟩

/-- The call of the session that carries out a command. A select is made in the way of what the
method returns. -/
inductive Command.Makes (command : Command) (sig : MethodSignature) (args : List Arg)
    (parameter : Value) : SessionCall → Prop where
  | insert (h : command.commandType = .insert) :
    Makes command sig args parameter (.insert command.name parameter)
  | update (h : command.commandType = .update) :
    Makes command sig args parameter (.update command.name parameter)
  | delete (h : command.commandType = .delete) :
    Makes command sig args parameter (.delete command.name parameter)
  | flush (h : command.commandType = .flush) : Makes command sig args parameter .flushStatements
  | one (h : command.commandType = .select) (hreturns : sig.returns = .one) :
    Makes command sig args parameter (.selectOne command.name parameter)
  | many {b : RowBounds} (h : command.commandType = .select) (hreturns : sig.returns = .many)
    (hbounds : sig.Bounded args b) :
    Makes command sig args parameter (.selectList command.name parameter b)
  | map {key : String} {b : RowBounds} (h : command.commandType = .select)
    (hreturns : sig.returns = .map key) (hbounds : sig.Bounded args b) :
    Makes command sig args parameter (.selectMap command.name parameter key b)
  | cursor {b : RowBounds} (h : command.commandType = .select) (hreturns : sig.returns = .cursor)
    (hbounds : sig.Bounded args b) :
    Makes command sig args parameter (.selectCursor command.name parameter b)
  | void {b : RowBounds} {handler : Handler} (h : command.commandType = .select)
    (hreturns : sig.returns = .void) (hbounds : sig.Bounded args b)
    (hhandler : sig.Handled args handler) :
    Makes command sig args parameter (.select command.name parameter b handler)

/-- Replies in the shape that is declared for them. -/
inductive ReturnKind.Shapes : ReturnKind → SessionReply → MapperResult → Prop where
  | done : Shapes .void .done .void
  | uncounted (n : Nat) : Shapes .void (.count n) .void
  | affectedRows (n : Nat) : Shapes .affectedRows (.count n) (.affectedRows n)
  | flag (n : Nat) : Shapes .flag (.count n) (.flag (0 < n))
  | one (row : Option Value) : Shapes .one (.row row) (.one row)
  | many (rows : Rows) : Shapes .many (.rows rows) (.many rows)
  | map (key : String) (rows : KeyedRows) : Shapes (.map key) (.keyed rows) (.map rows)
  | cursor (cursor : Cursor) : Shapes .cursor (.cursor cursor) (.cursor cursor)

/-- The answer of a session as that of a method: an error as it is, anything else in the declared
shape. -/
inductive ReturnKind.Answers (returns : ReturnKind) :
    Outcome SessionReply → Outcome MapperResult → Prop where
  | fault (f : Fault) : Answers returns (.error f) (.error f)
  | reply {answer : SessionReply} {result : MapperResult} (h : returns.Shapes answer result) :
    Answers returns (.ok answer) (.ok result)

namespace MapperMethod

variable {catalog : Catalog} {i : MapperInterface} {sig : MethodSignature} {m : MapperMethod}
  {args : List Arg} {parameter : Value} {call : SessionCall}

/-- Runs the method on anything that is called like a session. -/
def executeOn {σ : Type} (server : SessionServer σ) (m : MapperMethod) (args : List Arg) (s : σ) :
    Outcome MapperResult × σ :=
  match m.plan args with
  | .error e => (.error (.error e), s)
  | .ok call => ((server.perform call s).1.map m.shape, (server.perform call s).2)

theorem execute_eq_executeOn (m : MapperMethod) (catalog : Catalog) (args : List Arg) (s : Session)
    (shared : Shared) :
    m.execute catalog args s shared = m.executeOn (Session.server catalog) args (s, shared) := by
  unfold execute executeOn
  cases m.plan args <;> rfl

/-! ## The check of arguments -/

/-- The arguments from a position on are checked in their order. -/
theorem exists_of_checkKinds {params : List ParamSpec} (hlength : args.length = params.length)
    (h : args.map Arg.kind ≠ params.map ParamSpec.kind) (index : Nat) :
    ∃ (k : Nat) (p : ParamSpec) (arg : Arg), params[k]? = some p ∧ args[k]? = some arg ∧
      arg.kind ≠ p.kind ∧ (args.take k).map Arg.kind = (params.take k).map ParamSpec.kind ∧
      m.checkKinds index args (params.map ParamSpec.kind) =
        .error (m.kindError (index + k) p.kind.describe) := by
  induction params generalizing args index with
  | nil =>
    have hnil : args = [] := List.length_eq_zero_iff.1 hlength
    exact absurd (by rw [hnil]; rfl) h
  | cons p params ih =>
    cases args with
    | nil => simp at hlength
    | cons arg args =>
      unfold checkKinds
      by_cases hkind : arg.kind = p.kind
      · have hrest : args.map Arg.kind ≠ params.map ParamSpec.kind := by
          simpa [hkind] using h
        obtain ⟨k, q, other, hq, hother, hne, hbefore, hcheck⟩ :=
          ih (by simpa using hlength) hrest (index + 1)
        refine ⟨k + 1, q, other, hq, hother, hne, by simp [hkind, hbefore], ?_⟩
        have hposition : index + 1 + k = index + (k + 1) := by omega
        simp only [List.map_cons]
        rw [if_pos hkind, hcheck, hposition]
      · refine ⟨0, p, arg, rfl, rfl, hkind, rfl, ?_⟩
        simp only [List.map_cons]
        rw [if_neg hkind, Nat.add_zero]

/-- Arguments that do not fit are turned down for what is wrong with them. -/
theorem exists_mismatch (hname : m.method = sig.name)
    (hkinds : m.paramKinds = sig.params.map ParamSpec.kind) (h : ¬ sig.Takes args) :
    ∃ cause, sig.Mismatch args cause ∧ m.checkArgs args = .error cause := by
  unfold checkArgs
  rw [hkinds, hname, List.length_map]
  by_cases hlength : args.length = sig.params.length
  · obtain ⟨k, p, arg, hp, harg, hkind, hfirst, hcheck⟩ := exists_of_checkKinds hlength h 0
    rw [Nat.zero_add, kindError, hname] at hcheck
    rw [if_neg (not_not_intro hlength)]
    exact ⟨_, .kind hlength hp harg hkind hfirst, hcheck⟩
  · rw [if_pos hlength]
    exact ⟨_, .count hlength, rfl⟩

/-! ## Resolved commands -/

theorem returns_of_resolve (h : resolve catalog i sig = .ok m) : m.returns = sig.returns := by
  obtain ⟨-, hm⟩ := exists_of_resolve h
  rw [hm]
  rfl

theorem command_of_resolve (h : resolve catalog i sig = .ok m) : m.command.Of catalog i sig := by
  have hcommand : resolveCommand catalog i sig = .ok m.command := by
    unfold resolve at h
    split at h
    · cases h
    · next command hcommand =>
      split at h
      · cases h
      · cases h
        exact hcommand
  unfold resolveCommand at hcommand
  split at hcommand
  · next hbody =>
    rw [← Except.ok.inj hcommand]
    exact .flush hbody
  · next id hbody =>
    dsimp only at hcommand
    split at hcommand
    · cases hcommand
    · next statement hfound =>
      rw [← Except.ok.inj hcommand]
      exact .statement hbody hfound
  · cases hcommand

/-! ## The one call -/

theorem bounded_rowBounds (htakes : sig.Takes args)
    (hindex : m.rowBoundsIndex = sig.rowBoundsIndex?) : sig.Bounded args (m.rowBounds args) := by
  unfold MethodSignature.Bounded
  cases hk : sig.rowBoundsIndex? with
  | none =>
    unfold rowBounds
    rw [hindex, hk]
    rfl
  | some k =>
    obtain ⟨b, hb⟩ := htakes.exists_bounds hk
    have hbounds : m.rowBounds args = b := rowBounds_eq (hindex.trans hk) hb
    rw [hbounds]
    exact hb

/-- A select that was resolved never comes to the errors for what it cannot return, nor to that for
a handler which is missing. -/
theorem makes_planSelect (hresolve : resolve catalog i sig = .ok m) (htakes : sig.Takes args)
    (hselect : m.command.commandType = .select) (parameter : Value) :
    ∃ call, m.planSelect args parameter = .ok call ∧
      m.command.Makes sig args parameter call := by
  obtain ⟨-, hm⟩ := exists_of_resolve hresolve
  have hreturns := returns_of_resolve hresolve
  have hbounds := bounded_rowBounds htakes (m := m) (by rw [hm]; rfl)
  unfold planSelect
  cases selectReturns hresolve hselect with
  | one h =>
    rw [h]
    exact ⟨_, rfl, .one hselect (hreturns ▸ h)⟩
  | many h =>
    rw [h]
    exact ⟨_, rfl, .many hselect (hreturns ▸ h) hbounds⟩
  | map h =>
    rw [h]
    exact ⟨_, rfl, .map hselect (hreturns ▸ h) hbounds⟩
  | cursor h =>
    rw [h]
    exact ⟨_, rfl, .cursor hselect (hreturns ▸ h) hbounds⟩
  | void h hdeclared hindex =>
    obtain ⟨handler, hhandler⟩ := htakes.exists_handler hdeclared
    simp only [h, hindex, Option.getD_some, hhandler]
    exact ⟨_, rfl, .void hselect (hreturns ▸ h) hbounds ⟨_, hdeclared, hhandler⟩⟩

/-- Arguments that fit are bound, and so come to the call of the command. -/
theorem makes_plan (hresolve : resolve catalog i sig = .ok m) (htakes : sig.Takes args) :
    ∃ parameter call, m.params.bind args = .ok parameter ∧ m.plan args = .ok call ∧
      m.command.Makes sig args parameter call := by
  obtain ⟨-, hm⟩ := exists_of_resolve hresolve
  have hargs : m.checkArgs args = .ok () := checkArgs_of_takes htakes (by rw [hm]; rfl)
  obtain ⟨parameter, hbind⟩ : ∃ parameter, m.params.bind args = .ok parameter := by
    rw [hm]
    exact ParamNames.exists_bind htakes _
  refine ⟨parameter, ?_⟩
  unfold plan
  rw [hargs, hbind]
  dsimp only
  cases hcommand : m.command.commandType with
  | insert => exact ⟨_, rfl, rfl, .insert hcommand⟩
  | update => exact ⟨_, rfl, rfl, .update hcommand⟩
  | delete => exact ⟨_, rfl, rfl, .delete hcommand⟩
  | flush => exact ⟨_, rfl, rfl, .flush hcommand⟩
  | select =>
    obtain ⟨call, hcall, hmakes⟩ := makes_planSelect hresolve htakes hcommand parameter
    exact ⟨call, rfl, hcall, hmakes⟩

/-! ## The shape of the answer -/

/-- A command that writes returns nothing or a count. -/
inductive Counts : ReturnKind → Prop where
  | void : Counts .void
  | affectedRows : Counts .affectedRows
  | flag : Counts .flag

theorem shapes_count (hcounts : Counts m.returns) (n : Nat) :
    m.returns.Shapes (.count n) (m.shape (.count n)) := by
  unfold shape countResult
  cases hreturns : m.returns with
  | void => exact .uncounted n
  | affectedRows => exact .affectedRows n
  | flag => exact .flag n
  | _ =>
    rw [hreturns] at hcounts
    cases hcounts

theorem counts_of_resolve (hresolve : resolve catalog i sig = .ok m)
    (hselect : m.command.commandType ≠ .select) (hflush : m.command.commandType ≠ .flush) :
    Counts m.returns := by
  obtain ⟨hfault, -⟩ := exists_of_resolve hresolve
  rw [returns_of_resolve hresolve]
  unfold returnFault? at hfault
  cases hcommand : m.command.commandType with
  | select => exact absurd hcommand hselect
  | flush => exact absurd hcommand hflush
  | _ =>
    cases hkind : sig.returns with
    | void => exact .void
    | affectedRows => exact .affectedRows
    | flag => exact .flag
    | _ => simp [hcommand, hkind] at hfault

theorem returns_of_flush (hresolve : resolve catalog i sig = .ok m)
    (hflush : m.command.commandType = .flush) : m.returns = .void := by
  obtain ⟨hfault, -⟩ := exists_of_resolve hresolve
  rw [returns_of_resolve hresolve]
  unfold returnFault? at hfault
  cases hkind : sig.returns with
  | void => rfl
  | _ => simp [hflush, hkind] at hfault

/-- Whatever answers the call of a command, in the form of the call, is given the declared shape. -/
theorem shapes_shape (hresolve : resolve catalog i sig = .ok m)
    (hmakes : m.command.Makes sig args parameter call) {answer : SessionReply}
    (hfits : answer.Fits call) : sig.returns.Shapes answer (m.shape answer) := by
  have hreturns := returns_of_resolve hresolve
  cases hmakes with
  | insert h | update h | delete h =>
    cases hfits
    rw [← hreturns]
    exact shapes_count (counts_of_resolve hresolve (by simp [h]) (by simp [h])) _
  | flush h =>
    cases hfits
    rw [← hreturns, returns_of_flush hresolve h]
    exact .done
  | one h hkind =>
    cases hfits
    exact hkind ▸ .one _
  | many h hkind =>
    cases hfits
    exact hkind ▸ .many _
  | map h hkind =>
    cases hfits
    exact hkind ▸ .map _ _
  | cursor h hkind =>
    cases hfits
    exact hkind ▸ .cursor _
  | void h hkind =>
    cases hfits
    exact hkind ▸ .done

theorem answers_executeOn {σ : Type} (server : SessionServer σ) (s : σ)
    (hplan : m.plan args = .ok call)
    (hshapes : ∀ answer : SessionReply, answer.Fits call →
      sig.returns.Shapes answer (m.shape answer)) :
    sig.returns.Answers (server.perform call s).1 (m.executeOn server args s).1 ∧
      (m.executeOn server args s).2 = (server.perform call s).2 := by
  have hfits := server.fits call s
  unfold executeOn
  rw [hplan]
  refine ⟨?_, rfl⟩
  dsimp only
  cases houtcome : (server.perform call s).1 with
  | error fault => exact .fault fault
  | ok answer => exact .reply (hshapes answer (hfits answer houtcome))

/-- On whatever session a resolved method is called, arguments that do not fit the declaration call
nothing, and all others make the one call of the statement, whose answer is given the declared
shape. -/
theorem one_call_of_the_session (hresolve : resolve catalog i sig = .ok m) (args : List Arg) :
    m.command.Of catalog i sig ∧
      (¬ sig.Takes args → ∃ cause, sig.Mismatch args cause ∧ m.checkArgs args = .error cause ∧
        ∀ {σ : Type} (server : SessionServer σ) (s : σ),
          m.executeOn server args s = (.error (.error (.binding cause)), s)) ∧
      (sig.Takes args → ∃ parameter call,
        (ParamNames.ofSignature sig catalog.settings.useActualParamName).bind args =
          .ok parameter ∧
        m.plan args = .ok call ∧ m.command.Makes sig args parameter call ∧
        ∀ {σ : Type} (server : SessionServer σ) (s : σ),
          sig.returns.Answers (server.perform call s).1 (m.executeOn server args s).1 ∧
            (m.executeOn server args s).2 = (server.perform call s).2) ∧
      ∀ s shared,
        m.execute catalog args s shared =
          m.executeOn (Session.server catalog) args (s, shared) := by
  obtain ⟨-, hm⟩ := exists_of_resolve hresolve
  refine ⟨command_of_resolve hresolve, fun h => ?_, fun htakes => ?_,
    m.execute_eq_executeOn catalog args⟩
  · obtain ⟨cause, hmismatch, hcheck⟩ :=
      exists_mismatch (m := m) (by rw [hm]; rfl) (by rw [hm]; rfl) h
    refine ⟨cause, hmismatch, hcheck, fun server s => ?_⟩
    unfold executeOn plan
    rw [hcheck]
  · obtain ⟨parameter, call, hbind, hplan, hmakes⟩ := makes_plan hresolve htakes
    have hparams : m.params = .ofSignature sig catalog.settings.useActualParamName := by
      rw [hm]
      rfl
    refine ⟨parameter, call, hparams ▸ hbind, hplan, hmakes, fun server s => ?_⟩
    exact answers_executeOn server s hplan fun answer => shapes_shape hresolve hmakes

/-- A method that hands rows to its first argument. -/
def visit : MethodSignature where
  name := "visit"
  params := [.resultHandler, .value "after", .rowBounds]
  returns := .void
  body := .statement (some "users.page")

/-- The handler goes along with the value and the bounds behind it. -/
theorem visit_is_one_select :
    ∃ m, resolve pages { name := "users" } visit = .ok m ∧
      visit.Takes [.handler { id := 3 }, .value (.int 7), .bounds ⟨1, 1⟩] ∧
      ∀ {σ : Type} (server : SessionServer σ) (s : σ),
        visit.returns.Answers
          (server.perform (.select "users.page" (.int 7) ⟨1, 1⟩ { id := 3 }) s).1
          (m.executeOn server [.handler { id := 3 }, .value (.int 7), .bounds ⟨1, 1⟩] s).1 := by
  have htakes : visit.Takes [.handler { id := 3 }, .value (.int 7), .bounds ⟨1, 1⟩] := rfl
  obtain ⟨-, -, hfits, -⟩ := one_call_of_the_session
    (show resolve pages { name := "users" } visit = .ok _ from rfl)
    [.handler { id := 3 }, .value (.int 7), .bounds ⟨1, 1⟩]
  obtain ⟨parameter, call, -, hplan, -, hanswers⟩ := hfits htakes
  refine ⟨_, rfl, htakes, fun server s => ?_⟩
  cases hplan
  exact (hanswers server s).1

end MapperMethod

end DataMapper
