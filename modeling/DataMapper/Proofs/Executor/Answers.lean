import DataMapper.Executor.Basic
import Mathlib.Tactic.SplitIfs
/-!
# Answers of the data source

What a connection answers depends on its environment, on whether it is closed, and on the rows,
counts and failures of the source. Neither the record of what was asked nor the keys that the
connection remembers enter any answer.
-/

namespace DataMapper

/-! ## Sources -/

/-- Sources that answer alike, whatever was asked of them so far. -/
structure DataSource.SameAnswers (d d' : DataSource) : Prop where
  rows : d.rows = d'.rows
  affected : d.affected = d'.affected
  failing : d.failing = d'.failing

namespace DataSource.SameAnswers

variable {d d' d'' : DataSource}

theorem refl (d : DataSource) : d.SameAnswers d :=
  ⟨rfl, rfl, rfl⟩

theorem symm (h : d.SameAnswers d') : d'.SameAnswers d :=
  ⟨h.rows.symm, h.affected.symm, h.failing.symm⟩

theorem trans (h : d.SameAnswers d') (h' : d'.SameAnswers d'') : d.SameAnswers d'' :=
  ⟨h.rows.trans h'.rows, h.affected.trans h'.affected, h.failing.trans h'.failing⟩

theorem answer (h : d.SameAnswers d') (statement : String) (parameter : Value) :
    d.answer statement parameter = d'.answer statement parameter := by
  unfold DataSource.answer
  rw [h.rows]

theorem affectedBy (h : d.SameAnswers d') (statement : String) :
    d.affectedBy statement = d'.affectedBy statement := by
  unfold DataSource.affectedBy
  rw [h.affected]

theorem fails (h : d.SameAnswers d') (point : FailPoint) : d.fails point = d'.fails point := by
  unfold DataSource.fails
  rw [h.failing]

theorem recordClose (h : d.SameAnswers d') :
    { d with closes := d.closes + 1 }.SameAnswers { d' with closes := d'.closes + 1 } :=
  ⟨h.rows, h.affected, h.failing⟩

theorem setRows (h : d.SameAnswers d') (statement : String) (rows : Rows) :
    (d.setRows statement rows).SameAnswers (d'.setRows statement rows) :=
  ⟨congrArg (·.insert statement rows) h.rows, h.affected, h.failing⟩

theorem setAffected (h : d.SameAnswers d') (statement : String) (n : Nat) :
    (d.setAffected statement n).SameAnswers (d'.setAffected statement n) :=
  ⟨h.rows, congrArg (·.insert statement n) h.affected, h.failing⟩

theorem fail (h : d.SameAnswers d') (point : FailPoint) :
    (d.fail point).SameAnswers (d'.fail point) := by
  refine ⟨h.rows, h.affected, ?_⟩
  unfold DataSource.fail
  rw [h.failing]

theorem heal (h : d.SameAnswers d') (point : FailPoint) :
    (d.heal point).SameAnswers (d'.heal point) := by
  refine ⟨h.rows, h.affected, ?_⟩
  unfold DataSource.heal
  rw [h.failing]

end DataSource.SameAnswers

namespace DataSource

theorem answer_setRows (d : DataSource) (statement : String) (rows : Rows) (parameter : Value) :
    (d.setRows statement rows).answer statement parameter = rows := by
  unfold answer setRows
  dsimp only
  rw [NameMap.get?_insert_self]
  rfl

theorem fails_fail_of_ne (d : DataSource) {point point' : FailPoint} (h : point' ≠ point) :
    (d.fail point).fails point' = d.fails point' := by
  unfold fail fails
  split_ifs
  · rfl
  · simp [h]

theorem not_fails_heal {d : DataSource} {point : FailPoint} (h : d.fails point = false)
    (point' : FailPoint) : (d.heal point').fails point = false := by
  unfold heal fails at *
  simp only [List.contains_eq_mem, decide_eq_false_iff_not, List.mem_filter] at h ⊢
  exact fun hmem => h hmem.1

end DataSource

/-! ## Connections -/

namespace Connection

variable {c c' c'' : Connection} {d d' : DataSource}

/-- Connections that differ at most in the keys they remember. -/
structure SameState (c c' : Connection) : Prop where
  environment : c.environment = c'.environment
  closed : c.closed = c'.closed

theorem SameState.refl (c : Connection) : c.SameState c :=
  ⟨rfl, rfl⟩

theorem SameState.symm (h : c.SameState c') : c'.SameState c :=
  ⟨h.environment.symm, h.closed.symm⟩

theorem SameState.trans (h : c.SameState c') (h' : c'.SameState c'') : c.SameState c'' :=
  ⟨h.environment.trans h'.environment, h.closed.trans h'.closed⟩

theorem sameState_remember (c : Connection) (key : CacheKey) : (c.remember key).SameState c :=
  ⟨rfl, rfl⟩

theorem sameState_forget (c : Connection) : c.forget.SameState c :=
  ⟨rfl, rfl⟩

/-- The same result, from connections in the same state over sources that answer alike. -/
structure Agree {α : Type} (p q : α × Connection × DataSource) : Prop where
  answer : p.1 = q.1
  state : p.2.1.SameState q.2.1
  source : p.2.2.SameAnswers q.2.2

theorem Agree.of_keeps {α : Type} {p q : α × Connection × DataSource} (answer : p.1 = q.1)
    (hp : p.2.1.SameState c ∧ p.2.2.SameAnswers d)
    (hq : q.2.1.SameState c' ∧ q.2.2.SameAnswers d') (hc : c.SameState c')
    (hd : d.SameAnswers d') : Agree p q :=
  ⟨answer, (hp.1.trans hc).trans hq.1.symm, (hp.2.trans hd).trans hq.2.symm⟩

/-! ## Selects -/

/-- An open connection answers a select with the rows of the source, cut by the bounds. -/
theorem select_eq (c : Connection) (hopen : c.closed = false) (d : DataSource)
    (hquery : d.fails .query = false) (statement : MappedStatement) (parameter : Value)
    (bounds : RowBounds) :
    c.select d statement parameter bounds =
      (.ok (bounds.slice (d.answer statement.id parameter)),
        d.recordQuery statement.id parameter) := by
  simp [select, hopen, hquery]

theorem eq_slice_of_select {statement : MappedStatement} {parameter : Value} {bounds : RowBounds}
    {rows : Rows} (h : (c.select d statement parameter bounds).1 = .ok rows) :
    rows = bounds.slice (d.answer statement.id parameter) := by
  unfold select at h
  split_ifs at h
  exact (Except.ok.inj h).symm

theorem sameAnswers_select (c : Connection) (d : DataSource) (statement : MappedStatement)
    (parameter : Value) (bounds : RowBounds) :
    (c.select d statement parameter bounds).2.SameAnswers d := by
  unfold select
  split_ifs
  · exact .refl d
  · exact .refl d
  · exact ⟨rfl, rfl, rfl⟩

theorem select_congr (hc : c.SameState c') (hd : d.SameAnswers d') (statement : MappedStatement)
    (parameter : Value) (bounds : RowBounds) :
    (c.select d statement parameter bounds).1 = (c'.select d' statement parameter bounds).1 ∧
      (c.select d statement parameter bounds).2.SameAnswers
        (c'.select d' statement parameter bounds).2 := by
  have hleft := c.sameAnswers_select d statement parameter bounds
  have hright := c'.sameAnswers_select d' statement parameter bounds
  refine ⟨?_, (hleft.trans hd).trans hright.symm⟩
  unfold select
  rw [hc.closed, hd.fails, hd.answer]
  split_ifs <;> rfl

/-! ## Writes -/

theorem update_keeps (c : Connection) (d : DataSource) (statement : MappedStatement)
    (parameter : Value) :
    (c.update d statement parameter).2.1.SameState c ∧
      (c.update d statement parameter).2.2.SameAnswers d := by
  unfold update
  split_ifs
  · exact ⟨.refl c, .refl d⟩
  · exact ⟨.refl c, .refl d⟩
  · exact ⟨sameState_forget c, ⟨rfl, rfl, rfl⟩⟩

theorem update_congr (hc : c.SameState c') (hd : d.SameAnswers d') (statement : MappedStatement)
    (parameter : Value) :
    Agree (c.update d statement parameter) (c'.update d' statement parameter) := by
  refine .of_keeps ?_ (c.update_keeps d statement parameter)
    (c'.update_keeps d' statement parameter) hc hd
  unfold update
  rw [hc.closed, hd.fails, hd.affectedBy]
  split_ifs <;> rfl

theorem sameAnswers_flush (c : Connection) (d : DataSource) : (c.flush d).2.SameAnswers d := by
  unfold flush
  split_ifs
  · exact .refl d
  · exact ⟨rfl, rfl, rfl⟩

theorem flush_congr (hc : c.SameState c') (hd : d.SameAnswers d') :
    (c.flush d).1 = (c'.flush d').1 ∧ (c.flush d).2.SameAnswers (c'.flush d').2 := by
  refine ⟨?_, ((c.sameAnswers_flush d).trans hd).trans (c'.sameAnswers_flush d').symm⟩
  unfold flush
  rw [hc.closed]
  split_ifs <;> rfl

/-! ## Boundaries -/

theorem commit_keeps (c : Connection) (d : DataSource) (required : Bool) :
    (c.commit d required).2.1.SameState c ∧ (c.commit d required).2.2.SameAnswers d := by
  unfold commit
  split_ifs
  · exact ⟨.refl c, .refl d⟩
  · exact ⟨sameState_forget c, .refl d⟩
  · exact ⟨sameState_forget c, .refl d⟩
  · exact ⟨sameState_forget c, ⟨rfl, rfl, rfl⟩⟩

theorem commit_congr (hc : c.SameState c') (hd : d.SameAnswers d') (required : Bool) :
    Agree (c.commit d required) (c'.commit d' required) := by
  refine .of_keeps ?_ (c.commit_keeps d required) (c'.commit_keeps d' required) hc hd
  unfold commit
  rw [hc.closed, hd.fails]
  split_ifs <;> rfl

/-- A required commit reaches the source unless it fails. -/
theorem required_commit_ne (c : Connection) (d : DataSource) :
    (c.commit d true).1 ≠ .ok false := by
  unfold commit
  rw [Bool.not_true, if_neg Bool.false_ne_true]
  split_ifs
  · exact fun h => nomatch h
  · exact fun h => nomatch h
  · exact fun h => nomatch h

theorem rollback_keeps (c : Connection) (d : DataSource) (required : Bool) :
    (c.rollback d required).2.1.SameState c ∧ (c.rollback d required).2.2.SameAnswers d := by
  unfold rollback
  split_ifs
  · exact ⟨.refl c, .refl d⟩
  · exact ⟨sameState_forget c, .refl d⟩
  · exact ⟨sameState_forget c, .refl d⟩
  · exact ⟨sameState_forget c, ⟨rfl, rfl, rfl⟩⟩

theorem rollback_congr (hc : c.SameState c') (hd : d.SameAnswers d') (required : Bool) :
    Agree (c.rollback d required) (c'.rollback d' required) := by
  refine .of_keeps ?_ (c.rollback_keeps d required) (c'.rollback_keeps d' required) hc hd
  unfold rollback
  rw [hc.closed, hd.fails]
  split_ifs <;> rfl

theorem close_keeps (c : Connection) (d : DataSource) (forceRollback : Bool) :
    (c.close d forceRollback).2.1.SameState { c with closed := true } ∧
      (c.close d forceRollback).2.2.SameAnswers d := by
  obtain ⟨hstate, hanswers⟩ := rollback_keeps c d forceRollback
  unfold close
  split_ifs with hclosed
  · exact ⟨⟨rfl, hclosed⟩, .refl d⟩
  · exact ⟨⟨hstate.environment, rfl⟩, ⟨hanswers.rows, hanswers.affected, hanswers.failing⟩⟩

theorem close_congr (hc : c.SameState c') (hd : d.SameAnswers d') (forceRollback : Bool) :
    Agree (c.close d forceRollback) (c'.close d' forceRollback) := by
  have hclosed : ({ c with closed := true } : Connection).SameState { c' with closed := true } :=
    ⟨hc.environment, rfl⟩
  refine .of_keeps ?_ (c.close_keeps d forceRollback) (c'.close_keeps d' forceRollback) hclosed hd
  obtain ⟨hrolled, _, hanswers⟩ := rollback_congr hc hd forceRollback
  have hclose := hanswers.recordClose.fails .close
  unfold close
  rw [hc.closed]
  split_ifs
  · rfl
  · generalize c.rollback d forceRollback = rolled at hrolled hclose
    generalize c'.rollback d' forceRollback = rolled' at hrolled hclose
    obtain ⟨outcome, c₁, d₁⟩ := rolled
    obtain ⟨outcome', c₁', d₁'⟩ := rolled'
    obtain rfl : outcome = outcome' := hrolled
    cases outcome with
    | error e => rfl
    | ok _ =>
      dsimp only at hclose ⊢
      rw [hclose]

end Connection

end DataMapper
