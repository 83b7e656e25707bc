import DataMapper.Proofs.Executor.Recollection
import DataMapper.Proofs.System.Mappers
import Mathlib.Data.Finset.Card
import Mathlib.Data.List.Dedup
/-!
# Queries of a session that only accumulates

A session that selects and commits, over regions that were empty when it was opened, queries the
source once for each key, however its selects and commits follow each other and whatever rows the
source comes to hold. All selects under one key are answered with the rows of the first one.
-/

namespace DataMapper

theorem DataSource.queryCountFor_recordQuery (d : DataSource) (statement : String)
    (parameter : Value) (id : String) :
    (d.recordQuery statement parameter).queryCountFor id =
      d.queryCountFor id + if id = statement then 1 else 0 := by
  unfold recordQuery queryCountFor
  rw [NameMap.get?_insert]
  split_ifs with hid
  · rw [hid]
    rfl
  · rfl

/-! ## Sessions -/

namespace Session

variable {s : Session} {catalog : Catalog} {regions : List RegionRef} {known : Recollection}
  {shared : Shared} {id : String} {parameter : Value} {bounds : RowBounds} {rows : Rows}

/-- A list that succeeds is the answer of the executor. -/
theorem query_of_selectList
    (h : (s.perform catalog shared (.selectList id parameter bounds)).1 = .ok (.rows rows)) :
    ∃ statement, catalog.statement id = .ok statement ∧
      s.executor.query statement parameter bounds none shared =
        (.ok rows, (s.perform catalog shared (.selectList id parameter bounds)).2.1.executor,
          (s.perform catalog shared (.selectList id parameter bounds)).2.2) := by
  rw [perform_eq] at h ⊢
  cases hrequest : s.request catalog (.selectList id parameter bounds) with
  | error e =>
    rw [hrequest] at h
    cases h
  | ok request =>
    obtain ⟨statement, hfound, rfl⟩ := exists_of_named hrequest
    refine ⟨statement, hfound, ?_⟩
    rw [hrequest] at h
    unfold served Executor.perform at h ⊢
    dsimp only at h ⊢
    generalize s.executor.query statement parameter bounds none shared = answer at h ⊢
    obtain ⟨outcome, x, shared'⟩ := answer
    cases outcome with
    | error fault => cases h
    | ok rows' =>
      cases h
      rfl

theorem recalls_commit (h : s.executor.Recalls catalog regions known shared)
    (hsep : Separate regions) (force : Bool) :
    let after := (s.perform catalog shared (.commit force)).2
    after.1.executor.Recalls catalog regions known after.2 ∧
      after.2.source.queries = shared.source.queries := by
  intro after
  have hafter : after = (s.served (.commit force) shared (s.request catalog (.commit force))).2 :=
    congrArg Prod.snd (s.perform_eq catalog shared (.commit force))
  rw [hafter]
  cases hrequest : s.request catalog (.commit force) with
  | error e => exact ⟨h, rfl⟩
  | ok request =>
    obtain ⟨-, rfl⟩ := eq_of_unsealed hrequest
    exact h.commit hsep (s.boundaryRequired force)

end Session

/-! ## Steps -/

/-- The key of a step that lists the rows of the statement of this id. -/
def Step.key? (catalog : Catalog) (id : String) : Step → Option CacheKey
  | .call _ (.selectList name parameter bounds) =>
    if name = id then
      match catalog.statement id with
      | .error _ => none
      | .ok statement =>
        (CacheKey.forStatement statement parameter bounds
          catalog.settings.environmentId).toOption
    else none
  | _ => none

/-- A step of the session that lists rows which one of these regions answers, or commits, or a
change of the source. -/
inductive Step.Accumulates (catalog : Catalog) (regions : List RegionRef) (a : Nat) :
    Step → Prop where
  | select {id : String} {statement : MappedStatement} {r : RegionRef} (parameter : Value)
    (bounds : RowBounds) (found : catalog.statement id = .ok statement) (region : r ∈ regions)
    (answered : statement.AnsweredBy r) :
    Accumulates catalog regions a (.call a (.selectList id parameter bounds))
  | commit (force : Bool) : Accumulates catalog regions a (.call a (.commit force))
  | setRows (statement : String) (rows : Rows) :
    Accumulates catalog regions a (.setRows statement rows)
  | setAffected (statement : String) (n : Nat) :
    Accumulates catalog regions a (.setAffected statement n)
  | fail (point : FailPoint) : Accumulates catalog regions a (.fail point)
  | heal (point : FailPoint) : Accumulates catalog regions a (.heal point)

/-- The step does not fail to list rows. -/
def Step.Lists : Step → Reply → Prop
  | .call _ (.selectList ..), reply => ∃ rows, reply = .answered (.ok (.rows rows))
  | _, _ => True

/-- The distinct keys under which steps list the rows of a statement. -/
def keysOf (catalog : Catalog) (id : String) (steps : List Step) : Finset CacheKey :=
  (steps.filterMap (Step.key? catalog id)).toFinset

theorem keysOf_cons (catalog : Catalog) (id : String) (step : Step) (rest : List Step) :
    keysOf catalog id (step :: rest) =
      (step.key? catalog id).elim (keysOf catalog id rest)
        fun key => insert key (keysOf catalog id rest) := by
  unfold keysOf
  cases hkey : step.key? catalog id with
  | none => simp [hkey]
  | some key => simp [hkey]

/-- The key is that of the one statement whose rows are listed. -/
theorem key?_selectList {catalog : Catalog} {id : String} {statement : MappedStatement}
    {parameter : Value} {bounds : RowBounds} {key : CacheKey}
    (hfound : catalog.statement id = .ok statement)
    (hkey : CacheKey.forStatement statement parameter bounds catalog.settings.environmentId =
      .ok key) (a : Nat) (id' : String) :
    Step.key? catalog id' (.call a (.selectList id parameter bounds)) =
      if id' = id then some key else none := by
  unfold Step.key?
  dsimp only
  by_cases hid : id' = id
  · subst hid
    rw [if_pos rfl, if_pos rfl, hfound]
    dsimp only
    rw [hkey]
    rfl
  · rw [if_neg hid, if_neg fun heq => hid heq.symm]

namespace Recollection

variable {known : Recollection} {id : String} {key : CacheKey} {rows : Rows}

/-- The keys of a statement that are not known yet. -/
def new (known : Recollection) (id : String) (keys : Finset CacheKey) : Finset CacheKey :=
  keys.filter fun key => known id key = none

theorem new_nothing (id : String) (keys : Finset CacheKey) : nothing.new id keys = keys := by
  unfold new nothing
  simp

/-- A key that is learned was new before, if it was not known, and is new no more. -/
theorem card_new_insert (known : Recollection) (id : String) (key : CacheKey) (rows : Rows)
    (keys : Finset CacheKey) (h : known id key = none) :
    (known.new id (insert key keys)).card = ((known.learn id key rows).new id keys).card + 1 := by
  have hnew : known.new id (insert key keys) =
      insert key ((known.learn id key rows).new id keys) := by
    unfold new learn
    ext key'
    by_cases hkey : key' = key
    · simp [hkey, h]
    · simp [hkey]
  have hlearned : key ∉ (known.learn id key rows).new id keys := by
    unfold new
    simp [learn_self]
  rw [hnew, Finset.card_insert_of_notMem hlearned]

theorem new_insert_of_known (h : known id key = some rows) (keys : Finset CacheKey) :
    known.new id (insert key keys) = known.new id keys := by
  unfold new
  simp [Finset.filter_insert, h]

theorem new_learn_of_ne {id' : String} (h : id' ≠ id) (known : Recollection) (key : CacheKey)
    (rows : Rows) (keys : Finset CacheKey) :
    (known.learn id key rows).new id' keys = known.new id' keys := by
  unfold new learn
  simp [h]

variable {parameter : Value} {before after : DataSource}

/-- What was known is not learned anew. -/
theorem Answers.kept (h : known.Answers id key parameter before rows after) {id' : String}
    {key' : CacheKey} {rows' : Rows} (hknown : known id' key' = some rows') :
    known.learn id key rows id' key' = some rows' := by
  by_cases hsame : id' = id ∧ key' = key
  · obtain ⟨rfl, rfl⟩ := hsame
    cases h with
    | known h => rw [learn_self, ← h, hknown]
    | queried h =>
      rw [h] at hknown
      cases hknown
  · rwa [learn_of_ne known rows hsame]

/-- The source is queried for the keys that are new. -/
theorem Answers.counted (h : known.Answers id key parameter before rows after) (id' : String)
    (keys : Finset CacheKey) :
    after.queryCountFor id' + ((known.learn id key rows).new id' keys).card =
      before.queryCountFor id' +
        (known.new id' (if id' = id then insert key keys else keys)).card := by
  by_cases hid : id' = id
  · subst hid
    rw [if_pos rfl]
    cases h with
    | known h => rw [learn_known h, new_insert_of_known h]
    | queried h =>
      rw [DataSource.queryCountFor_recordQuery, if_pos rfl,
        known.card_new_insert id' key rows keys h]
      omega
  · rw [if_neg hid, new_learn_of_ne hid]
    cases h with
    | known h => rfl
    | queried h => rw [DataSource.queryCountFor_recordQuery, if_neg hid, Nat.add_zero]

end Recollection

namespace System

variable {s : System} {a : Nat} {catalog : Catalog} {regions : List RegionRef}
  {known : Recollection} {id : String} {parameter : Value} {bounds : RowBounds}

/-- The system with a session to which this is known. -/
structure Recalls (a : Nat) (catalog : Catalog) (regions : List RegionRef) (known : Recollection)
    (s : System) : Prop where
  configuration : s.configuration.toCatalog = catalog
  session : ∃ session, s.sessions.get? a = some session ∧
    session.executor.Recalls catalog regions known s.shared

/-- What was known stays known, and the rows that a step lists are known after it. A step makes one
query if its key was new, and none otherwise. -/
structure Adds (catalog : Catalog) (s : System) (step : Step) (known known' : Recollection) :
    Prop where
  kept : ∀ id key rows, known id key = some rows → known' id key = some rows
  listed : ∀ id key, step.key? catalog id = some key →
    ∃ rows, known' id key = some rows ∧ (s.step step).1 = .answered (.ok (.rows rows))
  counted : ∀ id keys,
    (s.step step).2.shared.source.queryCountFor id + (known'.new id keys).card =
      s.shared.source.queryCountFor id +
        (known.new id ((step.key? catalog id).elim keys (insert · keys))).card

/-- A step that lists nothing, and asks the source for nothing. -/
theorem adds_of_queries {step : Step} (hkey : ∀ id, step.key? catalog id = none)
    (hqueries : (s.step step).2.shared.source.queries = s.shared.source.queries) :
    Adds catalog s step known known where
  kept _ _ _ h := h
  listed id key h := by
    rw [hkey] at h
    cases h
  counted id keys := by
    unfold DataSource.queryCountFor
    rw [hkey, hqueries]
    rfl

theorem catalog_openSession (s : System) (autoCommit : Option Bool) :
    (s.openSession autoCommit).2.configuration.toCatalog = s.configuration.toCatalog := by
  unfold openSession
  dsimp only
  split_ifs <;> rfl

theorem catalog_call (s : System) (a : Nat) (call : SessionCall) :
    (s.step (.call a call)).2.configuration.toCatalog = s.configuration.toCatalog := by
  unfold System.step System.call
  dsimp only
  cases s.sessions.get? a <;> rfl

theorem Recalls.select (h : s.Recalls a catalog regions known) (hsettled : catalog.Settled)
    (hsep : Separate regions) {statement : MappedStatement} {r : RegionRef}
    (hfound : catalog.statement id = .ok statement) (hr : r ∈ regions)
    (hanswered : statement.AnsweredBy r) {rows : Rows}
    (hreply : (s.step (.call a (.selectList id parameter bounds))).1 =
      .answered (.ok (.rows rows))) :
    ∃ known', (s.step (.call a (.selectList id parameter bounds))).2.Recalls a catalog regions
        known' ∧
      Adds catalog s (.call a (.selectList id parameter bounds)) known known' := by
  obtain ⟨rfl, session, hsession, hrecalls⟩ := h
  obtain ⟨hanswer, hshared⟩ := step_call hsession (.selectList id parameter bounds)
  have hrows := Reply.answered.inj (hanswer.symm.trans hreply)
  obtain ⟨statement', hfound', hquery⟩ := Session.query_of_selectList hrows
  cases hfound.symm.trans hfound'
  obtain ⟨key, hkey, hafter, hanswers⟩ :=
    hrecalls.query hsettled hsep hfound hr hanswered hquery
  rw [← hshared] at hafter hanswers
  have hkeys := key?_selectList hfound hkey a
  refine ⟨known.learn id key rows, ⟨s.catalog_call a _, _, get?_call hsession _, hafter⟩,
    fun id' key' rows' => hanswers.kept, fun id' key' hlisted => ?_, fun id' keys => ?_⟩
  · rw [hkeys] at hlisted
    split_ifs at hlisted with hid
    cases hlisted
    exact ⟨rows, hid ▸ known.learn_self id key rows, hreply⟩
  · rw [hanswers.counted id' keys, hkeys]
    split_ifs <;> rfl

theorem Recalls.commit (h : s.Recalls a catalog regions known) (hsep : Separate regions)
    (force : Bool) :
    (s.step (.call a (.commit force))).2.Recalls a catalog regions known ∧
      Adds catalog s (.call a (.commit force)) known known := by
  obtain ⟨rfl, session, hsession, hrecalls⟩ := h
  obtain ⟨-, hshared⟩ := step_call hsession (.commit force)
  obtain ⟨hafter, hqueries⟩ := Session.recalls_commit hrecalls hsep force
  rw [← hshared] at hafter hqueries
  exact ⟨⟨s.catalog_call a _, _, get?_call hsession _, hafter⟩,
    adds_of_queries (fun _ => rfl) hqueries⟩

theorem Recalls.modifySource (h : s.Recalls a catalog regions known)
    (f : DataSource → DataSource) : (s.modifySource f).Recalls a catalog regions known := by
  obtain ⟨hconfiguration, session, hsession, hrecalls⟩ := h
  exact ⟨hconfiguration, session, hsession, hrecalls.of_regions rfl⟩

theorem Recalls.step (h : s.Recalls a catalog regions known) (hsettled : catalog.Settled)
    (hsep : Separate regions) {step : Step} (hstep : step.Accumulates catalog regions a)
    (hlists : step.Lists (s.step step).1) :
    ∃ known', (s.step step).2.Recalls a catalog regions known' ∧
      Adds catalog s step known known' := by
  cases hstep with
  | select parameter bounds hfound hr hanswered =>
    obtain ⟨rows, hreply⟩ := hlists
    exact h.select hsettled hsep hfound hr hanswered hreply
  | commit force => exact ⟨known, h.commit hsep force⟩
  | setRows statement rows =>
    exact ⟨known, h.modifySource fun d => d.setRows statement rows,
      adds_of_queries (fun _ => rfl) rfl⟩
  | setAffected statement n =>
    exact ⟨known, h.modifySource fun d => d.setAffected statement n,
      adds_of_queries (fun _ => rfl) rfl⟩
  | fail point =>
    exact ⟨known, h.modifySource fun d => d.fail point, adds_of_queries (fun _ => rfl) rfl⟩
  | heal point =>
    exact ⟨known, h.modifySource fun d => d.heal point, adds_of_queries (fun _ => rfl) rfl⟩

/-- Over a whole run the queries are counted by the keys that were not known at its beginning, and
each answer is what is known under its key in the end. -/
theorem Recalls.run (h : s.Recalls a catalog regions known) (hsettled : catalog.Settled)
    (hsep : Separate regions) {steps : List Step}
    (hsteps : ∀ step ∈ steps, step.Accumulates catalog regions a)
    (hlists : ∀ e ∈ steps.zip (s.run steps).1, e.1.Lists e.2) :
    ∃ known' : Recollection,
      (∀ id key rows, known id key = some rows → known' id key = some rows) ∧
      (∀ e ∈ steps.zip (s.run steps).1, ∀ id key, e.1.key? catalog id = some key →
        ∃ rows, known' id key = some rows ∧ e.2 = .answered (.ok (.rows rows))) ∧
      ∀ id, (s.run steps).2.shared.source.queryCountFor id =
        s.shared.source.queryCountFor id + (known.new id (keysOf catalog id steps)).card := by
  induction steps generalizing s known with
  | nil =>
    refine ⟨known, fun _ _ _ hknown => hknown, fun e he => ?_, fun id => ?_⟩
    · cases he
    · rfl
  | cons step rest ih =>
    obtain ⟨hfirst, hrest⟩ := List.forall_mem_cons.1 hsteps
    obtain ⟨hlisted, hlater⟩ := List.forall_mem_cons.1 hlists
    obtain ⟨known₁, hrecalls, hadds⟩ := h.step hsettled hsep hfirst hlisted
    obtain ⟨known₂, hkept, hanswers, hcounts⟩ := ih hrecalls hrest hlater
    refine ⟨known₂, fun id key rows hknown => hkept _ _ _ (hadds.kept _ _ _ hknown),
      List.forall_mem_cons.2 ⟨fun id key hkey => ?_, hanswers⟩, fun id => ?_⟩
    · obtain ⟨rows, hknown, hreply⟩ := hadds.listed id key hkey
      exact ⟨rows, hkept _ _ _ hknown, hreply⟩
    · rw [keysOf_cons, ← hadds.counted id (keysOf catalog id rest)]
      exact hcounts id

/-! ## A session over empty regions -/

/-- Nothing is known to a session when it is opened, which is no query. -/
theorem recalls_openSession (henabled : s.configuration.settings.cacheEnabled = true)
    (hopens : s.shared.source.fails .opening = false)
    (hmemory : ∀ r ∈ regions, s.shared.regions.InMemory r)
    (hempty : ∀ r ∈ regions, ∀ key, s.shared.regions.contents r key = none)
    (autoCommit : Option Bool) :
    (s.openSession autoCommit).2.Recalls s.opened s.configuration.toCatalog regions .nothing ∧
      (s.openSession autoCommit).2.shared.source.queries = s.shared.source.queries := by
  unfold openSession newExecutor
  dsimp only
  rw [hopens, if_neg Bool.false_ne_true, henabled, if_pos rfl]
  exact ⟨⟨rfl, _, Table.get?_insert_self _ _ _, Executor.recalls_fresh hmemory hempty⟩, rfl⟩

/-- Regions at different places that stand for themselves in a catalog have different ids. -/
theorem separate_owned (catalog : Catalog)
    (hplaces : ∀ r ∈ regions, ∀ r' ∈ regions, r.slot = r'.slot → r = r') :
    Separate (regions.filter fun r => catalog.region? r.id = some r) := by
  refine ⟨fun r hr r' hr' hid => ?_, fun r hr r' hr' hslot => ?_⟩
  · obtain ⟨-, howned⟩ := List.mem_filter.1 hr
    obtain ⟨-, howned'⟩ := List.mem_filter.1 hr'
    rw [decide_eq_true_iff] at howned howned'
    rw [hid, howned'] at howned
    exact (Option.some.inj howned).symm
  · exact hplaces r (List.mem_filter.1 hr).1 r' (List.mem_filter.1 hr').1 hslot

/-- A select finds its own region only. -/
theorem accumulates_owned (hsettled : catalog.Settled) {step : Step}
    (h : step.Accumulates catalog regions a) :
    step.Accumulates catalog (regions.filter fun r => catalog.region? r.id = some r) a := by
  cases h with
  | select parameter bounds found region answered =>
    have howned := (hsettled.get?_of_statement found).2 _ answered.cache
    exact .select parameter bounds found
      (List.mem_filter.2 ⟨region, decide_eq_true_iff.2 howned⟩) answered
  | commit force => exact .commit force
  | setRows statement rows => exact .setRows statement rows
  | setAffected statement n => exact .setAffected statement n
  | fail point => exact .fail point
  | heal point => exact .heal point

/-- A session over regions in memory that were empty when it was opened asks the source once for
each distinct key of each statement, and lists under one key the same rows each time, as long as it
only lists and commits. Commits may be forced or not and may fail, and the source may be changed in
between. What stands at one place is one region, with one id. -/
theorem one_query_for_each_key {settings : Settings} {shared : Shared}
    (henabled : settings.cacheEnabled = true) (hopens : shared.source.fails .opening = false)
    (hplaces : ∀ r ∈ regions, ∀ r' ∈ regions, r.slot = r'.slot → r = r')
    (hmemory : ∀ r ∈ regions, shared.regions.InMemory r)
    (hempty : ∀ r ∈ regions, ∀ key, shared.regions.contents r key = none)
    (registrations : List Registration) (interfaces : List MapperInterface)
    (autoCommit : Option Bool) {steps : List Step} :
    let s := ((launched settings registrations interfaces shared).openSession autoCommit).2
    let catalog := s.configuration.toCatalog
    let answer := s.run steps
    (∀ step ∈ steps, step.Accumulates catalog regions 0) →
      (∀ e ∈ steps.zip answer.1, e.1.Lists e.2) →
        (∀ id, answer.2.shared.source.queryCountFor id =
          shared.source.queryCountFor id + (keysOf catalog id steps).card) ∧
        ∀ e ∈ steps.zip answer.1, ∀ e' ∈ steps.zip answer.1, ∀ id key,
          e.1.key? catalog id = some key → e'.1.key? catalog id = some key → e.2 = e'.2 := by
  intro s catalog answer hsteps hlists
  have hsettings : (launched settings registrations interfaces shared).configuration.settings =
      settings := Configuration.settings_inTurn (.ofSettings settings) registrations
  have hcatalog : (launched settings registrations interfaces shared).configuration.toCatalog =
      catalog := (catalog_openSession _ autoCommit).symm
  have hsettled : catalog.Settled :=
    hcatalog ▸ (Configuration.finds_inTurn settings registrations).settled
  let owned := regions.filter fun r => catalog.region? r.id = some r
  have hsep : Separate owned := separate_owned catalog hplaces
  have howned : ∀ r ∈ owned, r ∈ regions := fun r hr => (List.mem_filter.1 hr).1
  have hmemory' : ∀ r ∈ owned, shared.regions.InMemory r := fun r hr => hmemory r (howned r hr)
  have hempty' : ∀ r ∈ owned, ∀ key, shared.regions.contents r key = none :=
    fun r hr => hempty r (howned r hr)
  obtain ⟨hopened, hqueries⟩ := recalls_openSession
    (s := launched settings registrations interfaces shared) (by rw [hsettings, henabled])
    hopens hmemory' hempty' autoCommit
  rw [hcatalog] at hopened
  obtain ⟨known, -, hanswers, hcounts⟩ := hopened.run hsettled hsep
    (fun step hstep => accumulates_owned hsettled (hsteps step hstep)) hlists
  refine ⟨fun id => ?_, fun e he e' he' id key hkey hkey' => ?_⟩
  · have hbefore : s.shared.source.queryCountFor id = shared.source.queryCountFor id :=
      congrArg (fun queries : NameMap Nat => (queries.get? id).getD 0) hqueries
    rw [← hbefore, hcounts id, Recollection.new_nothing]
  · obtain ⟨rows, hrows, hreply⟩ := hanswers e he id key hkey
    obtain ⟨rows', hrows', hreply'⟩ := hanswers e' he' id key hkey'
    cases hrows.symm.trans hrows'
    rw [hreply, hreply']

/-! ## A user that is not there yet -/

/-- A statement that finds a user, who is not there at first. -/
def findsNobody : System :=
  ((launched {} [.statement (.cachedSelect "find" users ["id"])] []
    { regions := (RegionStore.empty.openMemory "users").2
      source := DataSource.empty.setRows "find" [] }).openSession none).2

def finding (n : Int64) : Step :=
  .call 0 (.selectList "find" (.int n) .all)

/-- Nobody is found in the end where nobody was found at first, by two queries in all. -/
theorem nobody_is_known :
    let steps := [finding 1, .call 0 (.commit false), .setRows "find" [.int 5], finding 2,
      .call 0 (.commit true), finding 1, finding 2]
    (∀ step ∈ steps, step.Accumulates findsNobody.configuration.toCatalog [users] 0) ∧
      (∀ e ∈ steps.zip (findsNobody.run steps).1, e.1.Lists e.2) ∧
      (findsNobody.run steps).2.shared.source.queryCountFor "find" = 2 ∧
      (findsNobody.run steps).1[5]? = some (.answered (.ok (.rows []))) := by
  intro steps
  have hfinding : ∀ n, (finding n).Accumulates findsNobody.configuration.toCatalog [users] 0 := by
    intro n
    have hanswered : (MappedStatement.cachedSelect "find" users ["id"]).AnsweredBy users :=
      ⟨rfl, rfl, rfl, rfl⟩
    exact .select _ _ rfl (List.mem_singleton_self users) hanswered
  have hsteps : ∀ step ∈ steps,
      step.Accumulates findsNobody.configuration.toCatalog [users] 0 := by
    simp only [steps, List.forall_mem_cons, List.not_mem_nil, false_implies, implies_true,
      and_true]
    exact ⟨hfinding 1, .commit false, .setRows _ _, hfinding 2, .commit true, hfinding 1,
      hfinding 2⟩
  have hreplies : (findsNobody.run steps).1 = [.answered (.ok (.rows [])),
      .answered (.ok .done), .done, .answered (.ok (.rows [.int 5])), .answered (.ok .done),
      .answered (.ok (.rows [])), .answered (.ok (.rows [.int 5]))] := by
    rfl
  have hlists : ∀ e ∈ steps.zip (findsNobody.run steps).1, e.1.Lists e.2 := by
    rw [hreplies]
    simp [steps, finding, Step.Lists]
  have hmemory : ∀ r ∈ [users], (RegionStore.empty.openMemory "users").2.InMemory r :=
    List.forall_mem_singleton.2 ⟨by decide, ⟨_, rfl⟩, rfl⟩
  have hempty : ∀ r ∈ [users], ∀ key,
      (RegionStore.empty.openMemory "users").2.contents r key = none :=
    List.forall_mem_singleton.2 fun _ => rfl
  obtain ⟨hcounts, -⟩ := one_query_for_each_key rfl rfl (separate_singleton users).slots hmemory
    hempty [.statement (.cachedSelect "find" users ["id"])] [] none hsteps hlists
  refine ⟨hsteps, hlists, (hcounts "find").trans ?_, by rw [hreplies]; rfl⟩
  decide +kernel

end System

end DataMapper
