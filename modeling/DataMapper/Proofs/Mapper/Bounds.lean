import DataMapper.Proofs.Mapper.Binding
import DataMapper.Proofs.Session.Uncached
import DataMapper.Mapper.Method
/-!
# Row bounds of mapper calls

A select method that declares row bounds makes its select with the bounds that are passed to it,
unless it returns one row. Such a method looks at all rows of its statement, and so may find too
many where only one is inside the bounds.
-/

namespace DataMapper

theorem Outcome.map_map {α β γ : Type} (f : α → β) (g : β → γ) (outcome : Outcome α) :
    (outcome.map f).map g = outcome.map (g ∘ f) := by
  cases outcome <;> rfl

namespace MethodSignature

variable {sig : MethodSignature} {args : List Arg} {k : Nat}

theorem exists_of_indexOf? {kind : ParamKind} (h : sig.indexOf? kind = some k) :
    ∃ p, sig.params[k]? = some p ∧ p.kind = kind := by
  obtain ⟨hk, hkind, -⟩ := List.findIdx?_eq_some_iff_getElem.1 h
  exact ⟨sig.params[k], List.getElem?_eq_getElem hk, by simpa using hkind⟩

theorem Takes.exists_bounds (h : sig.Takes args) (hk : sig.rowBoundsIndex? = some k) :
    ∃ b, args[k]? = some (.bounds b) := by
  obtain ⟨p, hp, hkind⟩ := exists_of_indexOf? hk
  obtain ⟨arg, harg, hargKind⟩ := h.exists_arg hp
  rw [hkind] at hargKind
  cases arg with
  | bounds b => exact ⟨b, harg⟩
  | value v => cases hargKind
  | handler h => cases hargKind

theorem Takes.exists_handler (h : sig.Takes args) (hk : sig.resultHandlerIndex? = some k) :
    ∃ handler, args[k]? = some (.handler handler) := by
  obtain ⟨p, hp, hkind⟩ := exists_of_indexOf? hk
  obtain ⟨arg, harg, hargKind⟩ := h.exists_arg hp
  rw [hkind] at hargKind
  cases arg with
  | handler h => exact ⟨h, harg⟩
  | value v => cases hargKind
  | bounds b => cases hargKind

end MethodSignature

namespace MapperMethod

variable {catalog : Catalog} {i : MapperInterface} {sig : MethodSignature} {m : MapperMethod}
  {args : List Arg} {parameter : Value} {b : RowBounds}

/-! ## Resolved methods -/

/-- The method with a signature that runs a command. -/
def ofCommand (sig : MethodSignature) (command : Command) (useActual : Bool) : MapperMethod where
  command := command
  method := sig.name
  returns := sig.returns
  paramKinds := sig.params.map ParamSpec.kind
  rowBoundsIndex := sig.rowBoundsIndex?
  resultHandlerIndex := sig.resultHandlerIndex?
  params := .ofSignature sig useActual

theorem exists_of_resolve (h : resolve catalog i sig = .ok m) :
    returnFault? m.command.commandType sig = none ∧
      m = ofCommand sig m.command catalog.settings.useActualParamName := by
  unfold resolve at h
  cases hcommand : resolveCommand catalog i sig with
  | error e =>
    rw [hcommand] at h
    cases h
  | ok command =>
    rw [hcommand] at h
    dsimp only at h
    split at h
    · cases h
    · next hfault =>
      cases h
      exact ⟨hfault, rfl⟩

/-- A select that returns nothing has a handler. -/
theorem exists_handlerIndex (h : returnFault? .select sig = none) (hvoid : sig.returns = .void) :
    ∃ k, sig.resultHandlerIndex? = some k := by
  unfold returnFault? at h
  rw [hvoid] at h
  dsimp only at h
  cases hindex : sig.resultHandlerIndex? with
  | none =>
    rw [hindex] at h
    cases h
  | some k => exact ⟨k, rfl⟩

theorem checkKinds_eq_ok (m : MapperMethod) (args : List Arg) (index : Nat) :
    m.checkKinds index args (args.map Arg.kind) = .ok () := by
  induction args generalizing index with
  | nil => rfl
  | cons arg rest ih =>
    unfold checkKinds
    rw [List.map_cons]
    dsimp only
    rw [if_pos rfl]
    exact ih (index + 1)

theorem checkArgs_of_takes (htakes : sig.Takes args)
    (hkinds : m.paramKinds = sig.params.map ParamSpec.kind) : m.checkArgs args = .ok () := by
  unfold MethodSignature.Takes at htakes
  unfold checkArgs
  rw [hkinds, ← htakes, List.length_map, if_neg (not_not_intro rfl)]
  exact m.checkKinds_eq_ok args 0

/-! ## Selects of methods -/

/-- The bounds that the select of a method is made with. A select of one row goes over all rows. -/
def boundsTaken (m : MapperMethod) (b : RowBounds) : RowBounds :=
  match m.returns with
  | .one => .all
  | _ => b

/-- What a method answers with for the rows of its select, and the journal afterwards. -/
inductive Delivers (m : MapperMethod) (args : List Arg) (rows : Rows) (journal : Journal) :
    Outcome MapperResult → Journal → Prop where
  | one (h : m.returns = .one) :
    Delivers m args rows journal
      ((Outcome.ofShape (Session.single m.command.name rows)).map .one) journal
  | many (h : m.returns = .many) : Delivers m args rows journal (.ok (.many rows)) journal
  | map {key : String} (h : m.returns = .map key) :
    Delivers m args rows journal
      ((Outcome.ofShape (Session.keyBy m.command.name key rows .empty)).map .map) journal
  | cursor (h : m.returns = .cursor) :
    Delivers m args rows journal (.ok (.cursor (.ofRows rows))) journal
  | void {k : Nat} {handler : Handler} (h : m.returns = .void)
    (hindex : m.resultHandlerIndex = some k) (hhandler : args[k]? = some (.handler handler)) :
    Delivers m args rows journal
      (if (handler.take rows journal).1 then .ok .void else .error .handlerBroke)
      (handler.take rows journal).2

theorem rowBounds_eq {k : Nat} (hindex : m.rowBoundsIndex = some k)
    (hbounds : args[k]? = some (.bounds b)) : m.rowBounds args = b := by
  unfold rowBounds
  rw [hindex, Option.bind_some, hbounds]

theorem plan_of_select (hargs : m.checkArgs args = .ok ())
    (hbind : m.params.bind args = .ok parameter) (hselect : m.command.commandType = .select) :
    m.plan args = m.planSelect args parameter := by
  unfold plan
  rw [hargs]
  dsimp only
  rw [hbind]
  dsimp only
  rw [hselect]

/-- The answer to a call that was planned, in the shape of the method. -/
theorem execute_of_plan {call : SessionCall} (hplan : m.plan args = .ok call) (catalog : Catalog)
    (s : Session) (shared : Shared) :
    (m.execute catalog args s shared).1 = (s.perform catalog shared call).1.map m.shape ∧
      (m.execute catalog args s shared).2 = (s.perform catalog shared call).2 := by
  unfold execute
  rw [hplan]
  exact ⟨rfl, rfl⟩

/-- Arguments of the declared kinds lead to a select with the bounds among them. -/
theorem exists_plan {k : Nat} (hresolve : resolve catalog i sig = .ok m)
    (hselect : m.command.commandType = .select) (hindex : sig.rowBoundsIndex? = some k)
    (htakes : sig.Takes args) :
    ∃ b parameter, args[k]? = some (.bounds b) ∧ m.rowBounds args = b ∧
      m.params.bind args = .ok parameter ∧ m.plan args = m.planSelect args parameter := by
  obtain ⟨-, hm⟩ := exists_of_resolve hresolve
  obtain ⟨b, hb⟩ := htakes.exists_bounds hindex
  have hbounds : m.rowBounds args = b := rowBounds_eq (by rw [hm]; exact hindex) hb
  have hargs : m.checkArgs args = .ok () := checkArgs_of_takes htakes (by rw [hm]; rfl)
  obtain ⟨parameter, hbind⟩ : ∃ parameter, m.params.bind args = .ok parameter := by
    rw [hm]
    exact ParamNames.exists_bind htakes _
  exact ⟨b, parameter, hb, hbounds, hbind, plan_of_select hargs hbind hselect⟩

/-- What a select method may return: rows in some shape, or nothing, if it has a handler. -/
inductive SelectReturns (m : MapperMethod) (sig : MethodSignature) : Prop where
  | one (h : m.returns = .one)
  | many (h : m.returns = .many)
  | map {key : String} (h : m.returns = .map key)
  | cursor (h : m.returns = .cursor)
  | void {k : Nat} (h : m.returns = .void) (declared : sig.resultHandlerIndex? = some k)
    (index : m.resultHandlerIndex = some k)

theorem selectReturns (hresolve : resolve catalog i sig = .ok m)
    (hselect : m.command.commandType = .select) : m.SelectReturns sig := by
  obtain ⟨hfault, hm⟩ := exists_of_resolve hresolve
  rw [hselect] at hfault
  have hreturns : m.returns = sig.returns := by rw [hm]; rfl
  have hhandlers : m.resultHandlerIndex = sig.resultHandlerIndex? := by rw [hm]; rfl
  cases hkind : sig.returns with
  | one => exact .one (hreturns.trans hkind)
  | many => exact .many (hreturns.trans hkind)
  | map key => exact .map (hreturns.trans hkind)
  | cursor => exact .cursor (hreturns.trans hkind)
  | void =>
    obtain ⟨k, hk⟩ := exists_handlerIndex hfault hkind
    exact .void (hreturns.trans hkind) hk (hhandlers.trans hk)
  | affectedRows =>
    unfold returnFault? at hfault
    rw [hkind] at hfault
    cases hfault
  | flag =>
    unfold returnFault? at hfault
    rw [hkind] at hfault
    cases hfault

/-! ## Rows in the shape of the method -/

section Shapes

variable (parameter) (rows : Rows) (journal : Journal)

theorem delivers_one (h : m.returns = .one) :
    m.Delivers args rows journal
      (((SessionCall.selectOne m.command.name parameter).answer (.rows rows)).map m.shape)
      journal := by
  unfold SessionCall.answer
  dsimp only
  rw [Outcome.map_map]
  exact .one h

theorem delivers_map {key : String} (h : m.returns = .map key) (b : RowBounds) :
    m.Delivers args rows journal
      (((SessionCall.selectMap m.command.name parameter key b).answer (.rows rows)).map m.shape)
      journal := by
  unfold SessionCall.answer
  dsimp only
  rw [Outcome.map_map]
  exact .map h

theorem delivers_void {k : Nat} {handler : Handler} (h : m.returns = .void)
    (hindex : m.resultHandlerIndex = some k) (hhandler : args[k]? = some (.handler handler))
    (b : RowBounds) :
    let answer := Executor.deliver (some handler) rows journal
    m.Delivers args rows journal
      (((answer.1.map .rows).bind
        (SessionCall.select m.command.name parameter b handler).answer).map m.shape)
      answer.2 := by
  have hdelivers : m.Delivers args rows journal _ _ := .void h hindex hhandler
  unfold Executor.deliver
  dsimp only
  generalize handler.take rows journal = taken at hdelivers ⊢
  obtain ⟨took, journal⟩ := taken
  cases took <;> exact hdelivers

end Shapes

variable {statement : MappedStatement} {s : Session} {shared : Shared} {call : SessionCall}

/-- A method whose select asks for rows of the executor. -/
theorem execute_of_query {bounds : RowBounds} {handler : Option Handler}
    (hplan : m.plan args = .ok call) (hready : s.Ready shared) (hcache : statement.cache = none)
    (hresolves : statement.Resolves parameter)
    (hrequest : s.request catalog call = .ok (.query statement parameter bounds handler)) :
    let answer := Executor.deliver handler
      (bounds.slice (shared.source.answer statement.id parameter)) shared.journal
    (m.execute catalog args s shared).1 = ((answer.1.map .rows).bind call.answer).map m.shape ∧
      (m.execute catalog args s shared).2.2.journal = answer.2 := by
  obtain ⟨houtcome, hafter⟩ := execute_of_plan hplan catalog s shared
  obtain ⟨hanswer, hshared⟩ := Session.perform_of_query hready hcache hresolves hrequest
  rw [houtcome, hafter, hanswer, hshared]
  exact ⟨rfl, rfl⟩

/-- A resolved select method answers in its declared shape from the rows of its statement that are
inside the passed bounds, or from all of them if it returns one row. -/
theorem rows_within_bounds_unless_one {k : Nat} (hresolve : resolve catalog i sig = .ok m)
    (hselect : m.command.commandType = .select) (hindex : sig.rowBoundsIndex? = some k)
    (htakes : sig.Takes args) (hstatement : catalog.statement m.command.name = .ok statement)
    (hcache : statement.cache = none) (hready : s.Ready shared)
    (hresolves : ∀ parameter, m.params.bind args = .ok parameter → statement.Resolves parameter) :
    ∃ b parameter, args[k]? = some (.bounds b) ∧ m.params.bind args = .ok parameter ∧
      m.Delivers args ((m.boundsTaken b).slice (shared.source.answer statement.id parameter))
        shared.journal (m.execute catalog args s shared).1
        (m.execute catalog args s shared).2.2.journal := by
  obtain ⟨b, parameter, hb, hbounds, hbind, hplan⟩ :=
    exists_plan hresolve hselect hindex htakes
  have hresolved := hresolves parameter hbind
  have hnamed := Session.named_eq hready.unsealed hstatement
  refine ⟨b, parameter, hb, hbind, ?_⟩
  unfold planSelect at hplan
  rw [hbounds] at hplan
  unfold boundsTaken
  cases selectReturns hresolve hselect with
  | one h =>
    -- The select of one row has no bounds to pass on.
    rw [h] at hplan ⊢
    obtain ⟨houtcome, hjournal⟩ := execute_of_query hplan hready hcache hresolved (hnamed _)
    rw [houtcome, hjournal]
    exact delivers_one parameter _ _ h
  | many h =>
    rw [h] at hplan ⊢
    obtain ⟨houtcome, hjournal⟩ := execute_of_query hplan hready hcache hresolved (hnamed _)
    rw [houtcome, hjournal]
    exact .many h
  | map h =>
    rw [h] at hplan ⊢
    obtain ⟨houtcome, hjournal⟩ := execute_of_query hplan hready hcache hresolved (hnamed _)
    rw [houtcome, hjournal]
    exact delivers_map parameter _ _ h b
  | cursor h =>
    rw [h] at hplan ⊢
    have hrequest : s.request catalog (.selectCursor m.command.name parameter b) =
        .ok (.queryCursor statement parameter b) := hnamed _
    obtain ⟨houtcome, hafter⟩ := execute_of_plan hplan catalog s shared
    obtain ⟨hanswer, hshared⟩ := Session.perform_of_queryCursor hready hcache hrequest
    rw [houtcome, hafter, hanswer, hshared]
    exact .cursor h
  | void h hdeclared hhandled =>
    obtain ⟨handler, hhandler⟩ := htakes.exists_handler hdeclared
    rw [h, hhandled, Option.getD_some] at hplan
    dsimp only at hplan
    rw [hhandler] at hplan
    obtain ⟨houtcome, hjournal⟩ := execute_of_query hplan hready hcache hresolved (hnamed _)
    rw [h, houtcome, hjournal]
    exact delivers_void parameter _ _ h hhandled hhandler b

/-! ## A select of two rows -/

/-- A statement that no region caches. -/
def pages : Catalog where
  statements := NameMap.empty.insert "users.page" (.uncachedSelect "users.page" [])

/-- A method that selects a window of the rows. -/
def page (returns : ReturnKind) : MethodSignature where
  name := "page"
  params := [.rowBounds]
  returns := returns

def twoRows : Shared where
  source := DataSource.empty.setRows "users.page" [.int 1, .int 2]

def reader : Session where
  executor := .caching .empty (.direct { environment := "development" })
  autoCommit := false

/-- The second row, as a list. -/
theorem second_row_is_listed :
    ∃ m, resolve pages { name := "users" } (page .many) = .ok m ∧
      reader.Ready twoRows ∧ (page .many).Takes [.bounds ⟨1, 1⟩] ∧
      m.Delivers [.bounds ⟨1, 1⟩] [.int 2] []
        (m.execute pages [.bounds ⟨1, 1⟩] reader twoRows).1
        (m.execute pages [.bounds ⟨1, 1⟩] reader twoRows).2.2.journal := by
  have hready : reader.Ready twoRows := ⟨rfl, rfl, rfl⟩
  have htakes : (page .many).Takes [.bounds ⟨1, 1⟩] := rfl
  have hindex : (page .many).rowBoundsIndex? = some 0 := rfl
  obtain ⟨b, parameter, hb, -, hdelivers⟩ := rows_within_bounds_unless_one
    (show resolve pages { name := "users" } (page .many) = .ok _ from rfl) rfl hindex htakes rfl rfl
    hready fun _ _ _ hm => nomatch hm
  cases hb
  exact ⟨_, rfl, hready, htakes, hdelivers⟩

/-- A method of one row finds two, though one of them only is inside its bounds. -/
theorem rows_outside_bounds_are_too_many :
    ∃ m, resolve pages { name := "users" } (page .one) = .ok m ∧
      (m.execute pages [.bounds ⟨0, 1⟩] reader twoRows).1 =
        .error (.error (.result (.tooManyResults "users.page" 2))) ∧
      (⟨0, 1⟩ : RowBounds).slice (twoRows.source.answer "users.page" .null) = [.int 1] :=
  ⟨_, rfl, rfl, rfl⟩

end MapperMethod

end DataMapper
