import DataMapper.Proofs.Executor.Selects
import DataMapper.Proofs.Session.Publication
/-!
# Selects that no region caches

A select without a region goes through all caches to the connection. If the connection is open and
the source answers, the select is one query of the source, and its rows are those inside the bounds.
-/

namespace DataMapper

/-- All parameters of the statement that are not output only are found. -/
def MappedStatement.Resolves (statement : MappedStatement) (parameter : Value) : Prop :=
  ∀ m ∈ statement.parameterMappings, m.mode ≠ .output →
    ∃ v, parameter.resolve m.property = .ok v

variable {statement : MappedStatement} {parameter : Value} {shared : Shared}

theorem CacheKey.exists_boundValues {mappings : List ParameterMapping}
    (h : ∀ m ∈ mappings, m.mode ≠ .output → ∃ v, parameter.resolve m.property = .ok v) :
    ∃ values, boundValues parameter mappings = .ok values := by
  induction mappings with
  | nil => exact ⟨[], rfl⟩
  | cons m rest ih =>
    obtain ⟨values, hvalues⟩ := ih fun m' hm' => h m' (List.mem_cons_of_mem _ hm')
    unfold boundValues
    split_ifs with hmode
    · exact ⟨values, hvalues⟩
    · obtain ⟨v, hv⟩ := h m List.mem_cons_self hmode
      rw [hv, hvalues]
      exact ⟨v :: values, rfl⟩

namespace Executor

theorem exists_keyFor (x : Executor) (h : statement.Resolves parameter) (bounds : RowBounds) :
    ∃ key, x.keyFor statement parameter bounds = .ok key := by
  obtain ⟨values, hvalues⟩ := CacheKey.exists_boundValues h
  unfold keyFor CacheKey.forStatement
  rw [hvalues]
  exact ⟨_, rfl⟩

/-- What an open connection to a source that answers makes of a select: the source notes it down,
and the rows inside the bounds are delivered. -/
def delivered (statement : MappedStatement) (parameter : Value) (bounds : RowBounds)
    (handler : Option Handler) (shared : Shared) : Outcome Rows × Shared :=
  let (outcome, journal) :=
    deliver handler (bounds.slice (shared.source.answer statement.id parameter)) shared.journal
  (outcome,
    { shared with source := shared.source.recordQuery statement.id parameter, journal })

theorem queryWithKey_of_open (x : Executor) (hcache : statement.cache = none)
    (hopen : x.isClosed = false) (hquery : shared.source.fails .query = false) (parameter : Value)
    (bounds : RowBounds) (handler : Option Handler) (key : CacheKey) :
    ∃ x', x.queryWithKey statement parameter bounds handler key shared =
      ((delivered statement parameter bounds handler shared).1, x',
        (delivered statement parameter bounds handler shared).2) := by
  induction x with
  | direct c =>
    unfold queryWithKey
    rw [c.select_eq hopen shared.source hquery]
    exact ⟨_, rfl⟩
  | caching work delegate ih =>
    obtain ⟨x', hx'⟩ := ih hopen
    rw [queryWithKey_of_uncached work delegate parameter bounds handler key shared hcache, hx']
    exact ⟨_, rfl⟩

theorem query_of_open (x : Executor) (hcache : statement.cache = none)
    (hresolves : statement.Resolves parameter) (hopen : x.isClosed = false)
    (hquery : shared.source.fails .query = false) (bounds : RowBounds)
    (handler : Option Handler) :
    ∃ x', x.query statement parameter bounds handler shared =
      ((delivered statement parameter bounds handler shared).1, x',
        (delivered statement parameter bounds handler shared).2) := by
  obtain ⟨key, hkey⟩ := x.exists_keyFor hresolves bounds
  unfold query
  rw [hkey]
  exact x.queryWithKey_of_open hcache hopen hquery parameter bounds handler key

theorem queryCursor_of_open (x : Executor) (hcache : statement.cache = none)
    (hopen : x.isClosed = false) (hquery : shared.source.fails .query = false) (parameter : Value)
    (bounds : RowBounds) :
    ∃ x', x.queryCursor statement parameter bounds shared =
      (.ok (bounds.slice (shared.source.answer statement.id parameter)), x',
        (delivered statement parameter bounds none shared).2) := by
  induction x with
  | direct c =>
    unfold queryCursor
    rw [c.select_eq hopen shared.source hquery]
    exact ⟨_, rfl⟩
  | caching work delegate ih =>
    obtain ⟨x', hx'⟩ := ih hopen
    unfold queryCursor
    rw [flushIfRequired_of_uncached work hcache]
    dsimp only
    rw [hx']
    exact ⟨_, rfl⟩

end Executor

namespace Session

variable {s : Session} {catalog : Catalog} {call : SessionCall}

/-- An open and unsealed session, over a source that answers. -/
structure Ready (s : Session) (shared : Shared) : Prop where
  unsealed : s.poisoned = false
  opened : s.executor.isClosed = false
  answers : shared.source.fails .query = false

theorem named_eq {id : String} (h : s.poisoned = false)
    (hstatement : catalog.statement id = .ok statement)
    (request : MappedStatement → ExecutorCall) :
    s.named catalog id request = .ok (request statement) := by
  unfold named
  rw [hstatement]
  exact unsealed_eq h _

theorem perform_of_query {bounds : RowBounds} {handler : Option Handler} (h : s.Ready shared)
    (hcache : statement.cache = none) (hresolves : statement.Resolves parameter)
    (hrequest : s.request catalog call = .ok (.query statement parameter bounds handler)) :
    let answer := Executor.delivered statement parameter bounds handler shared
    (s.perform catalog shared call).1 = (answer.1.map .rows).bind call.answer ∧
      (s.perform catalog shared call).2.2 = answer.2 := by
  obtain ⟨x', hx'⟩ :=
    s.executor.query_of_open hcache hresolves h.opened h.answers bounds handler
  rw [perform_eq, hrequest]
  unfold served Executor.perform
  dsimp only
  rw [hx']
  exact ⟨rfl, rfl⟩

theorem perform_of_queryCursor {bounds : RowBounds} (h : s.Ready shared)
    (hcache : statement.cache = none)
    (hrequest : s.request catalog call = .ok (.queryCursor statement parameter bounds)) :
    (s.perform catalog shared call).1 =
        call.answer (.rows (bounds.slice (shared.source.answer statement.id parameter))) ∧
      (s.perform catalog shared call).2.2 =
        (Executor.delivered statement parameter bounds none shared).2 := by
  obtain ⟨x', hx'⟩ :=
    s.executor.queryCursor_of_open hcache h.opened h.answers parameter bounds
  rw [perform_eq, hrequest]
  unfold served Executor.perform
  dsimp only
  rw [hx']
  exact ⟨rfl, rfl⟩

end Session

end DataMapper
