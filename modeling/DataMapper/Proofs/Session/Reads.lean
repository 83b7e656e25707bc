import DataMapper.Proofs.Session.Uncached
/-!
# Ways to read a statement

A session reads the rows of a statement in five ways: it lists them, lets a cursor hand them out,
gives them to a handler, keys them by one of their properties or expects a single one. All of them
are about the same rows, whatever these are, and each is one query of the source.
-/

namespace DataMapper

/-! ## One row at a time -/

namespace Cursor

/-- What a cursor hands out until it has no row left. -/
inductive Yields : Cursor → Rows → Prop where
  | nil {c c' : Cursor} (h : c.next = (none, c')) : Yields c []
  | cons {c c' : Cursor} {row : Value} {rows : Rows} (h : c.next = (some row, c'))
    (rest : Yields c' rows) : Yields c (row :: rows)

theorem yields_rest (rows : Rows) (consumed : Nat) : Yields ⟨rows, consumed⟩ rows := by
  induction rows generalizing consumed with
  | nil => exact .nil rfl
  | cons row rows ih => exact .cons rfl (ih (consumed + 1))

end Cursor

namespace Handler

/-- Entries of the journal for rows that a handler received. -/
def given (handler : Handler) (rows : Rows) : Journal :=
  rows.map fun row => (handler.id, row)

/-- The end of a select whose rows go to a handler, and the journal at that end. The handler
receives all rows in their order, or else breaks down at the first for which it has no room. -/
inductive Receives (handler : Handler) (rows : Rows) (journal : Journal) :
    Outcome SessionReply → Journal → Prop where
  | all : Receives handler rows journal (.ok .done) (journal ++ handler.given rows)
  | broke {taken rest : Rows} {row : Value} {capacity : Nat} (hrows : rows = taken ++ row :: rest)
    (limited : handler.capacity = some capacity)
    (full : capacity ≤ ((journal ++ handler.given taken).received handler.id).length) :
    Receives handler rows journal (.error .handlerBroke) (journal ++ handler.given taken)

variable {handler : Handler} {rows : Rows} {journal : Journal}

theorem exists_capacity (h : handler.hasRoom journal = false) :
    ∃ capacity, handler.capacity = some capacity ∧
      capacity ≤ (journal.received handler.id).length := by
  unfold hasRoom at h
  cases hcapacity : handler.capacity with
  | none =>
    rw [hcapacity] at h
    cases h
  | some capacity =>
    rw [hcapacity] at h
    exact ⟨capacity, rfl, by simpa using h⟩

theorem given_cons (handler : Handler) (row : Value) (rows : Rows) (journal : Journal) :
    journal ++ [(handler.id, row)] ++ handler.given rows =
      journal ++ handler.given (row :: rows) := by
  simp [given]

/-- A row that was received stands before all others. -/
theorem Receives.after_row {row : Value} {outcome : Outcome SessionReply} {after : Journal}
    (h : handler.Receives rows (journal ++ [(handler.id, row)]) outcome after) :
    handler.Receives (row :: rows) journal outcome after := by
  cases h with
  | all =>
    rw [given_cons]
    exact .all
  | broke hrows hlimited hfull =>
    rw [given_cons] at hfull ⊢
    exact .broke (by rw [hrows]; rfl) hlimited hfull

theorem receives_take (handler : Handler) (rows : Rows) (journal : Journal) :
    handler.Receives rows journal
      (if (handler.take rows journal).1 then .ok .done else .error .handlerBroke)
      (handler.take rows journal).2 := by
  induction rows generalizing journal with
  | nil =>
    have hall : handler.Receives [] journal (.ok .done) (journal ++ handler.given []) := .all
    simpa [given, take] using hall
  | cons row rows ih =>
    unfold take
    cases hroom : handler.hasRoom journal with
    | true => exact (ih (journal ++ [(handler.id, row)])).after_row
    | false =>
      obtain ⟨capacity, hlimited, hfull⟩ := exists_capacity hroom
      have hrows : row :: rows = [] ++ row :: rows := rfl
      have hbroke : handler.Receives (row :: rows) journal (.error .handlerBroke)
          (journal ++ handler.given []) :=
        .broke hrows hlimited (by simpa [given] using hfull)
      simpa [given] using hbroke

end Handler

/-! ## Rows in a shape -/

namespace Session

/-- Rows by the values of a property: under each value the last of the rows that carry it. One row
without the property leaves nothing of all this. -/
inductive Keys (id key : String) (rows : Rows) : Outcome SessionReply → Prop where
  | missing {row : Value} (hrow : row ∈ rows) (h : row.get? key = none) :
    Keys id key rows (.error (.error (.result (.mapKeyMissing id key))))
  | keyed {table : KeyedRows} (present : ∀ row ∈ rows, row.get? key ≠ none)
    (last : ∀ value,
      table.get? value = (rows.filter fun row => row.get? key = some value).getLast?) :
    Keys id key rows (.ok (.keyed table))

/-- The only row, if there are not too many. -/
inductive Singles (id : String) : Rows → Outcome SessionReply → Prop where
  | none : Singles id [] (.ok (.row none))
  | one (row : Value) : Singles id [row] (.ok (.row (some row)))
  | many {rows : Rows} (h : 1 < rows.length) :
    Singles id rows (.error (.error (.result (.tooManyResults id rows.length))))

/-- Rows are entered behind those that were entered before. -/
theorem keyBy_of_present (id : String) {key : String} {rows : Rows}
    (h : ∀ row ∈ rows, row.get? key ≠ none) (before : KeyedRows) :
    ∃ table, keyBy id key rows before = .ok table ∧ ∀ value,
      table.get? value =
        ((rows.filter fun row => row.get? key = some value).getLast?).or
          (before.get? value) := by
  induction rows generalizing before with
  | nil => exact ⟨before, rfl, fun value => rfl⟩
  | cons row rows ih =>
    obtain ⟨hrow, hrows⟩ := List.forall_mem_cons.1 h
    obtain ⟨v, hv⟩ := Option.ne_none_iff_exists'.1 hrow
    obtain ⟨table, htable, hlast⟩ := ih hrows (before.insert v row)
    refine ⟨table, ?_, fun value => ?_⟩
    · unfold keyBy
      rw [hv]
      exact htable
    · rw [hlast value, Table.get?_insert]
      by_cases hvalue : value = v
      · rw [if_pos hvalue, List.filter_cons_of_pos (by simp [hv, hvalue]), List.getLast?_cons]
        cases (rows.filter fun row => row.get? key = some value).getLast? <;> rfl
      · have hother : ¬ v = value := fun heq => hvalue heq.symm
        rw [if_neg hvalue, List.filter_cons_of_neg (by simp [hv, hother])]

theorem keyBy_of_missing (id : String) {key : String} {rows : Rows} {row : Value}
    (hrow : row ∈ rows) (h : row.get? key = none) (before : KeyedRows) :
    keyBy id key rows before = .error (.mapKeyMissing id key) := by
  induction rows generalizing before with
  | nil => cases hrow
  | cons first rows ih =>
    unfold keyBy
    cases hfirst : first.get? key with
    | none => rfl
    | some value =>
      have hne : row ≠ first := by
        rintro rfl
        rw [h] at hfirst
        cases hfirst
      exact ih ((List.mem_cons.1 hrow).resolve_left hne) _

theorem keys_keyBy (id key : String) (rows : Rows) :
    Keys id key rows ((Outcome.ofShape (keyBy id key rows .empty)).map .keyed) := by
  by_cases h : ∀ row ∈ rows, row.get? key ≠ none
  · obtain ⟨table, htable, hlast⟩ := keyBy_of_present id h .empty
    rw [htable]
    refine .keyed h fun value => ?_
    rw [hlast value, Table.get?_empty, Option.or_none]
  · obtain ⟨row, hrow, hmissing⟩ : ∃ row ∈ rows, row.get? key = none := by simpa using h
    rw [keyBy_of_missing id hrow hmissing]
    exact .missing hrow hmissing

theorem singles_single (id : String) (rows : Rows) :
    Singles id rows ((Outcome.ofShape (single id rows)).map .row) := by
  match rows with
  | [] => exact .none
  | [row] => exact .one row
  | first :: second :: rest => exact .many (by simp)

/-! ## Reads of a session -/

/-- The calls that read a statement for a parameter inside bounds. A single row is expected among
all of them. -/
inductive Read (id : String) (parameter : Value) (bounds : RowBounds) : SessionCall → Prop where
  | list : Read id parameter bounds (.selectList id parameter bounds)
  | cursor : Read id parameter bounds (.selectCursor id parameter bounds)
  | handed (handler : Handler) : Read id parameter bounds (.select id parameter bounds handler)
  | keyed (key : String) : Read id parameter bounds (.selectMap id parameter key bounds)
  | single (h : bounds = .all) : Read id parameter bounds (.selectOne id parameter)

variable {s : Session} {catalog : Catalog} {shared : Shared} {statement : MappedStatement}
  {id : String} {parameter : Value} {bounds : RowBounds} {call : SessionCall}

/-- No read counts as a write. -/
theorem Read.dirtyAfter (h : Read id parameter bounds call) (outcome : Outcome ExecutorReply)
    (before : Bool) : call.dirtyAfter outcome before = before := by
  cases h <;> rfl

theorem dirty_of_dirtyAfter (s : Session) (catalog : Catalog) (shared : Shared)
    (h : ∀ outcome, call.dirtyAfter outcome s.dirty = s.dirty) :
    (s.perform catalog shared call).2.1.dirty = s.dirty := by
  rw [perform_eq]
  unfold served
  cases s.request catalog call with
  | error e => rfl
  | ok request => exact h _

theorem perform_handed (h : s.Ready shared) (hstatement : catalog.statement id = .ok statement)
    (hcache : statement.cache = none) (hresolves : statement.Resolves parameter)
    (bounds : RowBounds) (handler : Handler) :
    let answer := s.perform catalog shared (.select id parameter bounds handler)
    handler.Receives (bounds.slice (shared.source.answer statement.id parameter)) shared.journal
      answer.1 answer.2.2.journal := by
  have hrequest : s.request catalog (.select id parameter bounds handler) =
      .ok (.query statement parameter bounds (some handler)) := named_eq h.unsealed hstatement _
  obtain ⟨hanswer, hafter⟩ := perform_of_query h hcache hresolves hrequest
  dsimp only at hanswer hafter ⊢
  rw [hanswer, hafter]
  have hreceives := handler.receives_take
    (bounds.slice (shared.source.answer statement.id parameter)) shared.journal
  unfold Executor.delivered Executor.deliver
  dsimp only
  generalize handler.take _ shared.journal = taken at hreceives ⊢
  obtain ⟨took, journal⟩ := taken
  cases took <;> exact hreceives

/-- Each read notes down one query, with its parameter. -/
theorem Read.source_perform (hread : Read id parameter bounds call) (h : s.Ready shared)
    (hstatement : catalog.statement id = .ok statement) (hcache : statement.cache = none)
    (hresolves : statement.Resolves parameter) :
    (s.perform catalog shared call).2.2.source =
      shared.source.recordQuery statement.id parameter := by
  have hquery : ∀ {call : SessionCall} {bounds : RowBounds} {handler : Option Handler},
      s.request catalog call = .ok (.query statement parameter bounds handler) →
        (s.perform catalog shared call).2.2.source =
          shared.source.recordQuery statement.id parameter := by
    intro call bounds handler hrequest
    rw [(perform_of_query h hcache hresolves hrequest).2]
    rfl
  have hnamed := named_eq h.unsealed hstatement
  cases hread with
  | list => exact hquery (hnamed _)
  | handed handler => exact hquery (hnamed _)
  | keyed key => exact hquery (hnamed _)
  | single hbounds => exact hquery (hnamed _)
  | cursor =>
    have hrequest : s.request catalog (.selectCursor id parameter bounds) =
        .ok (.queryCursor statement parameter bounds) := hnamed _
    rw [(perform_of_queryCursor h hcache hrequest).2]
    rfl

/-- All ways to read a statement that no region caches are about the rows that a list of them would
show, and each is one query that leaves the session as written as it was. -/
theorem reads_agree (h : s.Ready shared) (hstatement : catalog.statement id = .ok statement)
    (hcache : statement.cache = none) (hresolves : statement.Resolves parameter)
    (bounds : RowBounds) :
    ∃ rows : Rows,
      (s.perform catalog shared (.selectList id parameter bounds)).1 = .ok (.rows rows) ∧
      (∃ c : Cursor, c.Yields rows ∧
        (s.perform catalog shared (.selectCursor id parameter bounds)).1 = .ok (.cursor c)) ∧
      (∀ handler : Handler,
        let answer := s.perform catalog shared (.select id parameter bounds handler)
        handler.Receives rows shared.journal answer.1 answer.2.2.journal) ∧
      (∀ key, Keys id key rows
        (s.perform catalog shared (.selectMap id parameter key bounds)).1) ∧
      (bounds = .all → Singles id rows
        (s.perform catalog shared (.selectOne id parameter)).1) ∧
      ∀ call, Read id parameter bounds call →
        (s.perform catalog shared call).2.2.source =
            shared.source.recordQuery statement.id parameter ∧
          (s.perform catalog shared call).2.1.dirty = s.dirty := by
  have hnamed := named_eq h.unsealed hstatement
  have hlist : s.request catalog (.selectList id parameter bounds) =
      .ok (.query statement parameter bounds none) := hnamed _
  have hcursor : s.request catalog (.selectCursor id parameter bounds) =
      .ok (.queryCursor statement parameter bounds) := hnamed _
  have hkeyed : ∀ key, s.request catalog (.selectMap id parameter key bounds) =
      .ok (.query statement parameter bounds none) := fun _ => hnamed _
  have hsingle : s.request catalog (.selectOne id parameter) =
      .ok (.query statement parameter .all none) := hnamed _
  refine ⟨bounds.slice (shared.source.answer statement.id parameter), ?_,
    ⟨.ofRows _, Cursor.yields_rest _ 0, ?_⟩, ?_, ?_, ?_, ?_⟩
  · rw [(perform_of_query h hcache hresolves hlist).1]
    rfl
  · rw [(perform_of_queryCursor h hcache hcursor).1]
    rfl
  · exact perform_handed h hstatement hcache hresolves bounds
  · intro key
    rw [(perform_of_query h hcache hresolves (hkeyed key)).1]
    exact keys_keyBy id key _
  · rintro rfl
    rw [(perform_of_query h hcache hresolves hsingle).1]
    exact singles_single id _
  · intro call hread
    exact ⟨hread.source_perform h hstatement hcache hresolves,
      s.dirty_of_dirtyAfter catalog shared fun outcome => hread.dirtyAfter outcome s.dirty⟩

/-! ## A row that takes the place of another -/

/-- A statement that no region caches, with one parameter. -/
def turns : Catalog where
  statements := NameMap.empty.insert "turns" (.uncachedSelect "turns" ["round"])

def turn (seat card : Int64) : Value :=
  .map [("card", .int card), ("seat", .int seat)]

def threeTurns : Shared where
  source := DataSource.empty.setRows "turns" [turn 1 10, turn 2 20, turn 1 30]

def player : Session where
  executor := .caching .empty (.direct { environment := "development" })
  autoCommit := false

/-- The third row is found under the key of the first. -/
theorem later_row_takes_the_key :
    let parameter := Value.map [("round", .int 5)]
    let statement := MappedStatement.uncachedSelect "turns" ["round"]
    player.Ready threeTurns ∧ statement.Resolves parameter ∧ ∃ table : KeyedRows,
      (player.perform turns threeTurns (.selectMap "turns" parameter "seat" .all)).1 =
          .ok (.keyed table) ∧
        table.get? (.int 1) = some (turn 1 30) ∧ table.get? (.int 3) = none := by
  intro parameter statement
  have hready : player.Ready threeTurns := ⟨rfl, rfl, rfl⟩
  have hresolves : statement.Resolves parameter := by
    intro m hm _
    rw [List.mem_singleton.1 hm]
    exact ⟨.int 5, by decide +kernel⟩
  obtain ⟨rows, hrows, -, -, hkeys, -⟩ :=
    reads_agree hready (show turns.statement "turns" = .ok statement from rfl) rfl hresolves .all
  have hlisted : (player.perform turns threeTurns (.selectList "turns" parameter .all)).1 =
      .ok (.rows [turn 1 10, turn 2 20, turn 1 30]) := by rfl
  cases hlisted.symm.trans hrows
  refine ⟨hready, hresolves, ?_⟩
  have hseats := hkeys "seat"
  generalize (player.perform turns threeTurns (.selectMap "turns" parameter "seat" .all)).1 =
    outcome at hseats ⊢
  cases hseats with
  | missing hrow hmissing =>
    have hpresent : ∀ row ∈ [turn 1 10, turn 2 20, turn 1 30], row.get? "seat" ≠ none := by
      decide +kernel
    exact absurd hmissing (hpresent _ hrow)
  | keyed present last =>
    refine ⟨_, rfl, ?_, ?_⟩
    · rw [last]
      decide +kernel
    · rw [last]
      decide +kernel

end Session

end DataMapper
