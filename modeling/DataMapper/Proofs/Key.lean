import DataMapper.Key
import Mathlib.Tactic.SplitIfs
/-!
# Keys of selects

A key tells the statement, the environment and the bounds, but for bounds beyond the greatest
integer, which it does not tell apart. No list is long enough to tell them apart either, so that two
selects under one key are answered with the same rows.
-/

namespace DataMapper

/-! ## Bounds -/

namespace CacheKey

/-- The greatest bound that a key can tell, 2 to the power of 63 less 1. -/
def maxBound : Nat :=
  9223372036854775807

theorem toNat_boundValue (bound : UInt64) :
    ∃ n : Int64, boundValue bound = .int n ∧ n.toUInt64.toNat = min bound.toNat maxBound := by
  have hmax : Int64.maxValue.toUInt64.toNat = maxBound := by decide
  refine ⟨_, rfl, ?_⟩
  by_cases h : bound ≤ Int64.maxValue.toUInt64
  · have hle := UInt64.le_iff_toNat_le.1 h
    rw [if_pos h, UInt64.toUInt64_toInt64]
    omega
  · have hgt : ¬ bound.toNat ≤ Int64.maxValue.toUInt64.toNat :=
      fun hle => h (UInt64.le_iff_toNat_le.2 hle)
    rw [if_neg h]
    omega

theorem min_eq_of_boundValue_eq {bound bound' : UInt64} (h : boundValue bound = boundValue bound') :
    min bound.toNat maxBound = min bound'.toNat maxBound := by
  obtain ⟨n, hn, hmin⟩ := toNat_boundValue bound
  obtain ⟨n', hn', hmin'⟩ := toNat_boundValue bound'
  have hints : n = n' := by
    rw [hn, hn'] at h
    exact Value.int.inj h
  rw [← hmin, ← hmin', hints]

end CacheKey

namespace RowBounds

open CacheKey

variable {α : Type} {b b' : RowBounds}

theorem slice_eq_min (b : RowBounds) {rows : List α} (hlength : rows.length ≤ maxBound) :
    b.slice rows = (rows.drop (min b.offset.toNat maxBound)).take (min b.limit.toNat maxBound) := by
  have hdrop : rows.drop (min b.offset.toNat maxBound) = rows.drop b.offset.toNat := by
    by_cases hle : b.offset.toNat ≤ maxBound
    · rw [Nat.min_eq_left hle]
    · rw [List.drop_eq_nil_of_le (by omega), List.drop_eq_nil_of_le (by omega)]
  have htake : ∀ rest : List α, rest.length ≤ maxBound →
      rest.take (min b.limit.toNat maxBound) = rest.take b.limit.toNat := by
    intro rest hrest
    by_cases hle : b.limit.toNat ≤ maxBound
    · rw [Nat.min_eq_left hle]
    · rw [List.take_of_length_le (by omega), List.take_of_length_le (by omega)]
  unfold slice
  rw [hdrop, htake]
  rw [List.length_drop]
  omega

theorem slice_eq_of_boundValue_eq {rows : List α} (hlength : rows.length ≤ maxBound)
    (hoffset : boundValue b.offset = boundValue b'.offset)
    (hlimit : boundValue b.limit = boundValue b'.limit) : b.slice rows = b'.slice rows := by
  rw [b.slice_eq_min hlength, b'.slice_eq_min hlength, min_eq_of_boundValue_eq hoffset,
    min_eq_of_boundValue_eq hlimit]

end RowBounds

/-! ## Statements -/

namespace CacheKey

variable {statement statement' : MappedStatement} {parameter parameter' : Value}
  {bounds bounds' : RowBounds} {environment environment' : String} {key : CacheKey}

theorem components_forStatement
    (h : forStatement statement parameter bounds environment = .ok key) :
    ∃ values, key.components = .text statement.id :: values ++
      [boundValue bounds.offset, boundValue bounds.limit, .text environment] := by
  unfold forStatement at h
  split at h
  · cases h
  · rename_i values _
    cases h
    exact ⟨values, components_ofComponents _⟩

/-- What two selects under one key have in common. -/
theorem eq_of_forStatement (h : forStatement statement parameter bounds environment = .ok key)
    (h' : forStatement statement' parameter' bounds' environment' = .ok key) :
    statement.id = statement'.id ∧ boundValue bounds.offset = boundValue bounds'.offset ∧
      boundValue bounds.limit = boundValue bounds'.limit ∧ environment = environment' := by
  obtain ⟨values, hcomponents⟩ := components_forStatement h
  obtain ⟨values', hcomponents'⟩ := components_forStatement h'
  rw [hcomponents] at hcomponents'
  obtain ⟨hfront, hback⟩ := List.append_inj' hcomponents' rfl
  simp only [List.cons.injEq, Value.text.injEq, and_true] at hfront hback
  exact ⟨hfront.1, hback.1, hback.2.1, hback.2.2⟩

/-- The rows are those of the statement, cut by the bounds, for every select under the key. -/
def Sound (table : NameMap Rows) (key : CacheKey) (rows : Rows) : Prop :=
  ∀ statement parameter bounds environment,
    forStatement statement parameter bounds environment = .ok key →
      ∃ all, table.get? statement.id = some all ∧ rows = bounds.slice all

theorem sound_slice {table : NameMap Rows} {all : Rows}
    (h : forStatement statement parameter bounds environment = .ok key)
    (hall : table.get? statement.id = some all) (hlength : all.length ≤ maxBound) :
    Sound table key (bounds.slice all) := by
  intro statement' parameter' bounds' environment' h'
  obtain ⟨hid, hoffset, hlimit, _⟩ := eq_of_forStatement h h'
  exact ⟨all, hid ▸ hall, RowBounds.slice_eq_of_boundValue_eq hlength hoffset hlimit⟩

theorem Sound.eq_slice {table : NameMap Rows} {rows all : Rows} (h : Sound table key rows)
    (hkey : forStatement statement parameter bounds environment = .ok key)
    (hall : table.get? statement.id = some all) : rows = bounds.slice all := by
  obtain ⟨all', hall', hrows⟩ := h statement parameter bounds environment hkey
  rw [hall] at hall'
  cases hall'
  exact hrows

/-- The rows are what the select answers with under the key when these are all its rows. -/
def UpToDate (select : MappedStatement) (environment : String) (all : Rows) (key : CacheKey)
    (rows : Rows) : Prop :=
  ∀ parameter bounds, forStatement select parameter bounds environment = .ok key →
    rows = bounds.slice all

theorem exists_of_not_upToDate {select : MappedStatement} {all rows : Rows}
    (h : ¬ UpToDate select environment all key rows) :
    ∃ parameter bounds, forStatement select parameter bounds environment = .ok key ∧
      rows ≠ bounds.slice all := by
  obtain ⟨parameter, hparameter⟩ := Classical.not_forall.1 h
  obtain ⟨bounds, hbounds⟩ := Classical.not_forall.1 hparameter
  exact ⟨parameter, bounds, Classical.not_imp.1 hbounds⟩

theorem upToDate_slice {all : Rows} (hlength : all.length ≤ maxBound)
    (h : forStatement statement parameter bounds environment = .ok key) :
    UpToDate statement environment all key (bounds.slice all) := by
  intro parameter' bounds' h'
  obtain ⟨_, hoffset, hlimit, _⟩ := eq_of_forStatement h h'
  exact RowBounds.slice_eq_of_boundValue_eq hlength hoffset hlimit

end CacheKey

end DataMapper
