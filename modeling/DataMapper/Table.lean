/-!
# Tables

Finite maps as lists of pairs whose keys are pairwise distinct, in the order in which the keys were
first put.
-/

namespace DataMapper

theorem lookup_cons_ite {κ ν : Type} [DecidableEq κ] (x k : κ) (v : ν) (rest : List (κ × ν)) :
    List.lookup x ((k, v) :: rest) = if x = k then some v else List.lookup x rest := by
  rw [List.lookup_cons]
  by_cases h : x = k
  · simp [h]
  · simp [h, beq_eq_false_iff_ne.2 h]

/-- A finite map. -/
structure Table (κ ν : Type) [DecidableEq κ] where
  entries : List (κ × ν)
  distinct : (entries.map Prod.fst).Nodup

namespace Table

variable {κ ν : Type} [DecidableEq κ]

def putEntry (k : κ) (v : ν) : List (κ × ν) → List (κ × ν)
  | [] => [(k, v)]
  | e :: rest => if e.1 = k then (k, v) :: rest else e :: putEntry k v rest

private theorem mem_keys_putEntry {k x : κ} {v : ν} {entries : List (κ × ν)}
    (h : x ∈ (putEntry k v entries).map Prod.fst) : x = k ∨ x ∈ entries.map Prod.fst := by
  induction entries with
  | nil => simpa [putEntry] using h
  | cons e rest ih =>
    simp only [putEntry] at h
    split at h
    · rcases List.mem_cons.1 h with h | h
      · exact Or.inl h
      · exact Or.inr (List.mem_cons_of_mem _ h)
    · rcases List.mem_cons.1 h with h | h
      · exact Or.inr (h ▸ List.mem_cons_self)
      · exact (ih h).imp id (List.mem_cons_of_mem _)

private theorem nodup_putEntry (k : κ) (v : ν) {entries : List (κ × ν)}
    (h : (entries.map Prod.fst).Nodup) : ((putEntry k v entries).map Prod.fst).Nodup := by
  induction entries with
  | nil => simp [putEntry]
  | cons e rest ih =>
    simp only [List.map_cons, List.nodup_cons] at h
    simp only [putEntry]
    split
    · rename_i he
      exact List.nodup_cons.2 ⟨he ▸ h.1, h.2⟩
    · rename_i he
      refine List.nodup_cons.2 ⟨fun hmem => ?_, ih h.2⟩
      rcases mem_keys_putEntry hmem with hk | hk
      · exact he hk
      · exact h.1 hk

private theorem lookup_putEntry (k x : κ) (v : ν) (entries : List (κ × ν)) :
    (putEntry k v entries).lookup x = if x = k then some v else entries.lookup x := by
  induction entries with
  | nil => simp [putEntry, lookup_cons_ite]
  | cons e rest ih =>
    obtain ⟨k', v'⟩ := e
    by_cases he : k' = k
    · subst he
      by_cases h : x = k' <;> simp [putEntry, lookup_cons_ite, h]
    · by_cases h : x = k'
      · subst h
        simp [putEntry, he]
      · simp [putEntry, lookup_cons_ite, he, h, ih]

private theorem lookup_filter_ne (k x : κ) (entries : List (κ × ν)) :
    (entries.filter fun e => e.1 ≠ k).lookup x = if x = k then none else entries.lookup x := by
  induction entries with
  | nil => simp
  | cons e rest ih =>
    obtain ⟨k', v'⟩ := e
    by_cases he : k' = k
    · subst he
      rw [List.filter_cons_of_neg (by simp), ih]
      by_cases h : x = k' <;> simp [lookup_cons_ite, h]
    · rw [List.filter_cons_of_pos (by simpa using he)]
      by_cases h : x = k'
      · subst h
        simp [he]
      · rw [lookup_cons_ite, if_neg h, ih, lookup_cons_ite, if_neg h]

def empty : Table κ ν :=
  ⟨[], List.nodup_nil⟩

instance : Inhabited (Table κ ν) := ⟨empty⟩

def get? (t : Table κ ν) (k : κ) : Option ν :=
  t.entries.lookup k

def contains (t : Table κ ν) (k : κ) : Bool :=
  (t.get? k).isSome

/-- Puts a value under a key, in place of an earlier value of that key. -/
def insert (t : Table κ ν) (k : κ) (v : ν) : Table κ ν :=
  ⟨putEntry k v t.entries, nodup_putEntry k v t.distinct⟩

def insertAll (t : Table κ ν) (entries : List (κ × ν)) : Table κ ν :=
  entries.foldl (fun acc e => acc.insert e.1 e.2) t

def erase (t : Table κ ν) (k : κ) : Table κ ν :=
  ⟨t.entries.filter fun e => e.1 ≠ k,
    (List.filter_sublist.map Prod.fst).nodup t.distinct⟩

def size (t : Table κ ν) : Nat :=
  t.entries.length

def isEmpty (t : Table κ ν) : Bool :=
  t.entries.isEmpty

def keys (t : Table κ ν) : List κ :=
  t.entries.map Prod.fst

theorem get?_insert (t : Table κ ν) (k x : κ) (v : ν) :
    (t.insert k v).get? x = if x = k then some v else t.get? x :=
  lookup_putEntry k x v t.entries

@[simp] theorem get?_insert_self (t : Table κ ν) (k : κ) (v : ν) :
    (t.insert k v).get? k = some v := by
  simp [get?_insert]

theorem get?_insert_of_ne (t : Table κ ν) {k x : κ} (v : ν) (h : x ≠ k) :
    (t.insert k v).get? x = t.get? x := by
  simp [get?_insert, h]

@[simp] theorem get?_empty (k : κ) : (empty : Table κ ν).get? k = none :=
  rfl

theorem get?_erase (t : Table κ ν) (k x : κ) :
    (t.erase k).get? x = if x = k then none else t.get? x :=
  lookup_filter_ne k x t.entries

end Table

end DataMapper
