import DataMapper.Named
import Mathlib.Tactic.SplitIfs
/-!
# Lookups in tables

What a table or a name map answers is decided by its pairs alone: the order in which a table lists
them, and the order in which a batch of distinct keys is put, make no difference. A table with keys
and values written otherwise answers alike, as far as its keys can be told apart.
-/

namespace DataMapper

section Lookup

variable {κ ν : Type} [DecidableEq κ] {entries entries' : List (κ × ν)}

theorem lookup_eq_some_iff_mem (h : (entries.map Prod.fst).Nodup) {k : κ} {v : ν} :
    entries.lookup k = some v ↔ (k, v) ∈ entries := by
  induction entries with
  | nil => simp
  | cons e rest ih =>
    obtain ⟨k', v'⟩ := e
    rw [List.map_cons, List.nodup_cons] at h
    rw [lookup_cons_ite]
    by_cases hk : k = k'
    · subst hk
      have hmem : (k, v) ∉ rest := fun hmem => h.1 (List.mem_map.2 ⟨(k, v), hmem, rfl⟩)
      simp [hmem, eq_comm]
    · simp [hk, ih h.2]

theorem lookup_perm (hp : entries.Perm entries') (h : (entries.map Prod.fst).Nodup) (k : κ) :
    entries.lookup k = entries'.lookup k := by
  have h' : (entries'.map Prod.fst).Nodup := (hp.map Prod.fst).nodup_iff.1 h
  apply Option.ext
  intro v
  rw [lookup_eq_some_iff_mem h, lookup_eq_some_iff_mem h', hp.mem_iff]

end Lookup

namespace Table

variable {κ ν : Type} [DecidableEq κ]

theorem get?_eq_some_iff (t : Table κ ν) {k : κ} {v : ν} :
    t.get? k = some v ↔ (k, v) ∈ t.entries :=
  lookup_eq_some_iff_mem t.distinct

theorem isEmpty_eq_true_iff (t : Table κ ν) : t.isEmpty = true ↔ ∀ k, t.get? k = none := by
  constructor
  · intro h k
    have hnil : t.entries = [] := List.isEmpty_iff.1 h
    simp [get?, hnil]
  · intro h
    rw [isEmpty, List.isEmpty_iff, List.eq_nil_iff_forall_not_mem]
    rintro ⟨k, v⟩ hmem
    rw [← get?_eq_some_iff, h k] at hmem
    cases hmem

@[simp] theorem isEmpty_insert (t : Table κ ν) (k : κ) (v : ν) :
    (t.insert k v).isEmpty = false := by
  rw [Bool.eq_false_iff, ne_eq, isEmpty_eq_true_iff]
  intro h
  simpa using h k

theorem putEntry_of_lookup {k : κ} {v : ν} {entries : List (κ × ν)}
    (h : entries.lookup k = some v) : putEntry k v entries = entries := by
  induction entries with
  | nil => cases h
  | cons e rest ih =>
    obtain ⟨k', v'⟩ := e
    rw [lookup_cons_ite] at h
    unfold putEntry
    by_cases hk : k' = k
    · subst hk
      rw [if_pos rfl] at h
      rw [if_pos rfl, Option.some.inj h]
    · rw [if_neg (Ne.symm hk)] at h
      rw [if_neg hk, ih h]

/-- Putting what is there already changes nothing. -/
theorem insert_of_get? {t : Table κ ν} {k : κ} {v : ν} (h : t.get? k = some v) :
    t.insert k v = t := by
  obtain ⟨entries, hdistinct⟩ := t
  unfold insert
  simp only [putEntry_of_lookup h]

theorem eq_empty_of_size_eq_zero {t : Table κ ν} (h : t.size = 0) : t = empty := by
  obtain ⟨entries, hdistinct⟩ := t
  obtain rfl : entries = [] := List.eq_nil_of_length_eq_zero h
  rfl

/-- Among entries with distinct keys the order of putting does not show. -/
theorem get?_insertAll (t : Table κ ν) {entries : List (κ × ν)}
    (h : (entries.map Prod.fst).Nodup) (x : κ) :
    (t.insertAll entries).get? x = (entries.lookup x).or (t.get? x) := by
  induction entries generalizing t with
  | nil => simp [insertAll]
  | cons e rest ih =>
    obtain ⟨k, v⟩ := e
    rw [List.map_cons, List.nodup_cons] at h
    have hrest := ih (t.insert k v) h.2
    rw [insertAll, List.foldl_cons, ← insertAll, hrest, get?_insert, lookup_cons_ite]
    by_cases hx : x = k
    · subst hx
      have hnone : rest.lookup x = none := by
        rw [List.lookup_eq_none_iff]
        intro e he
        have hne : e.1 ≠ x := fun heq => h.1 (List.mem_map.2 ⟨e, he, heq⟩)
        simpa using hne.symm
      simp [hnone]
    · simp [hx]

theorem forall_insert {P : κ → ν → Prop} {t : Table κ ν} {k : κ} {v : ν} (hv : P k v)
    (h : ∀ x w, t.get? x = some w → P x w) : ∀ x w, (t.insert k v).get? x = some w → P x w := by
  intro x w hw
  rw [get?_insert] at hw
  split_ifs at hw with hx
  · cases hw
    exact hx ▸ hv
  · exact h x w hw

theorem forall_erase {P : κ → ν → Prop} {t : Table κ ν} {k : κ}
    (h : ∀ x w, t.get? x = some w → P x w) : ∀ x w, (t.erase k).get? x = some w → P x w := by
  intro x w hw
  rw [get?_erase] at hw
  split_ifs at hw with hx
  exact h x w hw

/-- The same table with its pairs listed in another order. -/
def reorder (t : Table κ ν) (entries : List (κ × ν)) (h : entries.Perm t.entries) : Table κ ν :=
  ⟨entries, (h.map Prod.fst).nodup_iff.2 t.distinct⟩

@[simp] theorem get?_reorder (t : Table κ ν) {entries : List (κ × ν)}
    (h : entries.Perm t.entries) (k : κ) : (t.reorder entries h).get? k = t.get? k :=
  (lookup_perm h.symm t.distinct k).symm

@[simp] theorem isEmpty_reorder (t : Table κ ν) {entries : List (κ × ν)}
    (h : entries.Perm t.entries) : (t.reorder entries h).isEmpty = t.isEmpty := by
  rw [Bool.eq_iff_iff, isEmpty_eq_true_iff, isEmpty_eq_true_iff]
  simp only [get?_reorder]

/-! ### Keys and values written otherwise -/

section Image

variable {κ' ν' : Type} [DecidableEq κ'] {f : κ → κ'} {g : ν → ν'} {t : Table κ ν}
  {t' : Table κ' ν'} {k : κ}

/-- The second table lists the pairs of the first one, with keys and values written otherwise. -/
def Image (f : κ → κ') (g : ν → ν') (t : Table κ ν) (t' : Table κ' ν') : Prop :=
  t'.entries = t.entries.map (Prod.map f g)

/-- No other key of the pairs is written as this one. -/
def Told (f : κ → κ') (k : κ) (entries : List (κ × ν)) : Prop :=
  ∀ e ∈ entries, f e.1 = f k → e.1 = k

theorem lookup_map_of_told {entries : List (κ × ν)} (h : Told f k entries) :
    (entries.map (Prod.map f g)).lookup (f k) = (entries.lookup k).map g := by
  induction entries with
  | nil => rfl
  | cons e rest ih =>
    obtain ⟨hfirst, hrest⟩ := List.forall_mem_cons.1 h
    rw [List.map_cons, Prod.map, lookup_cons_ite, lookup_cons_ite, ih hrest]
    by_cases hk : k = e.1
    · simp [hk]
    · have hne : f k ≠ f e.1 := fun heq => hk (hfirst heq.symm).symm
      simp [hk, hne]

theorem putEntry_map_of_told {entries : List (κ × ν)} (h : Told f k entries) (v : ν) :
    putEntry (f k) (g v) (entries.map (Prod.map f g)) =
      (putEntry k v entries).map (Prod.map f g) := by
  induction entries with
  | nil => rfl
  | cons e rest ih =>
    obtain ⟨hfirst, hrest⟩ := List.forall_mem_cons.1 h
    by_cases hk : e.1 = k
    · simp [putEntry, hk]
    · have hne : f e.1 ≠ f k := fun heq => hk (hfirst heq)
      simp [putEntry, hk, hne, ih hrest]

theorem filter_map_of_told {entries : List (κ × ν)} (h : Told f k entries) :
    (entries.map (Prod.map f g)).filter (fun e => e.1 ≠ f k) =
      (entries.filter fun e => e.1 ≠ k).map (Prod.map f g) := by
  rw [List.filter_map]
  congr 1
  apply List.filter_congr
  intro e he
  have hiff : f e.1 = f k ↔ e.1 = k := ⟨h e he, congrArg f⟩
  simp [hiff]

namespace Image

theorem empty : Image f g (.empty : Table κ ν) (.empty : Table κ' ν') :=
  rfl

theorem size (h : Image f g t t') : t'.size = t.size := by
  rw [Table.size, h, List.length_map, Table.size]

theorem get? (h : Image f g t t') (hk : Told f k t.entries) : t'.get? (f k) = (t.get? k).map g := by
  rw [Table.get?, h, lookup_map_of_told hk, Table.get?]

theorem contains (h : Image f g t t') (hk : Told f k t.entries) :
    t'.contains (f k) = t.contains k := by
  rw [Table.contains, h.get? hk, Option.isSome_map, Table.contains]

theorem insert (h : Image f g t t') (hk : Told f k t.entries) (v : ν) :
    Image f g (t.insert k v) (t'.insert (f k) (g v)) := by
  change putEntry (f k) (g v) t'.entries = (putEntry k v t.entries).map (Prod.map f g)
  rw [h, putEntry_map_of_told hk]

theorem erase (h : Image f g t t') (hk : Told f k t.entries) :
    Image f g (t.erase k) (t'.erase (f k)) := by
  change t'.entries.filter (fun e => e.1 ≠ f k) =
    (t.entries.filter fun e => e.1 ≠ k).map (Prod.map f g)
  rw [h, filter_map_of_told hk]

end Image

end Image

end Table

theorem Named.length_insert {α : Type} {name : String} (value : α) {entries : List (String × α)}
    (h : entries.lookup name = none) :
    (Named.insert name value entries).length = entries.length + 1 := by
  induction entries with
  | nil => rfl
  | cons e rest ih =>
    obtain ⟨n, v⟩ := e
    rw [lookup_cons_ite] at h
    split_ifs at h with hne
    unfold Named.insert
    rw [if_neg hne]
    split_ifs
    · rfl
    · simp [ih h]

namespace NameMap

variable {α : Type}

theorem nodup_names (m : NameMap α) : (m.entries.map Prod.fst).Nodup := by
  rw [List.nodup_iff_pairwise_ne, List.pairwise_map]
  refine m.ascending.imp fun h heq => ?_
  rw [heq] at h
  exact String.lt_irrefl _ h

theorem get?_eq_some_iff (m : NameMap α) {name : String} {value : α} :
    m.get? name = some value ↔ (name, value) ∈ m.entries :=
  lookup_eq_some_iff_mem m.nodup_names

theorem mem_names (m : NameMap α) {name : String} :
    name ∈ m.names ↔ ∃ value, m.get? name = some value := by
  unfold names Named.names
  rw [List.mem_map]
  constructor
  · rintro ⟨e, he, rfl⟩
    exact ⟨e.2, m.get?_eq_some_iff.2 he⟩
  · rintro ⟨value, hvalue⟩
    exact ⟨(name, value), m.get?_eq_some_iff.1 hvalue, rfl⟩

theorem forall_insert {P : String → α → Prop} {m : NameMap α} {name : String} {value : α}
    (hvalue : P name value) (h : ∀ x w, m.get? x = some w → P x w) :
    ∀ x w, (m.insert name value).get? x = some w → P x w := by
  intro x w hw
  rw [get?_insert] at hw
  split_ifs at hw with hx
  · cases hw
    exact hx ▸ hvalue
  · exact h x w hw

/-- A new name takes the place of none. -/
theorem get?_insert_of_new {m : NameMap α} {name x : String} {w : α} (value : α)
    (hnew : m.get? name = none) (h : m.get? x = some w) :
    (m.insert name value).get? x = some w := by
  have hne : x ≠ name := fun heq => by
    rw [heq, hnew] at h
    cases h
  rw [get?_insert_of_ne _ _ hne, h]

theorem size_insert (m : NameMap α) {name : String} (value : α) (h : m.get? name = none) :
    (m.insert name value).size = m.size + 1 :=
  Named.length_insert value h

theorem get?_map (m : NameMap α) (f : α → α) (name : String) :
    (m.map f).get? name = (m.get? name).map f := by
  apply Option.ext
  intro value
  rw [get?_eq_some_iff, Option.map_eq_some_iff]
  constructor
  · intro h
    obtain ⟨e, he, heq⟩ := List.mem_map.1 h
    cases heq
    exact ⟨e.2, (get?_eq_some_iff m).2 he, rfl⟩
  · rintro ⟨v, hv, rfl⟩
    exact List.mem_map.2 ⟨(name, v), (get?_eq_some_iff m).1 hv, rfl⟩

end NameMap

end DataMapper
