import DataMapper.Table
/-!
# Values under names

Association lists in ascending order of their names, and the finite maps that they form. Names are
compared by code points, so that the order is that of their encoded bytes.
-/

namespace DataMapper

namespace Named

variable {α : Type}

/-- Names strictly increase along the list, hence each stands there once. -/
def Ascending (entries : List (String × α)) : Prop :=
  entries.Pairwise fun a b => a.1 < b.1

/-- Puts a value under a name at its place in the order, in the stead of an earlier one. -/
def insert (name : String) (value : α) : List (String × α) → List (String × α)
  | [] => [(name, value)]
  | (n, v) :: rest =>
    if name < n then (name, value) :: (n, v) :: rest
    else if name = n then (name, value) :: rest
    else (n, v) :: insert name value rest

/-- The entries of a list in order of their names. Of several with one name the last counts. -/
def ofList (entries : List (String × α)) : List (String × α) :=
  entries.foldl (fun acc e => insert e.1 e.2 acc) []

def names (entries : List (String × α)) : List String :=
  entries.map Prod.fst

theorem lookup_insert (name key : String) (value : α) (entries : List (String × α)) :
    (insert name value entries).lookup key =
      if key = name then some value else entries.lookup key := by
  induction entries with
  | nil => simp [insert, lookup_cons_ite]
  | cons e rest ih =>
    obtain ⟨n, v⟩ := e
    by_cases h1 : name < n
    · simp [insert, lookup_cons_ite, h1]
    · by_cases h2 : name = n
      · subst h2
        by_cases h : key = name <;> simp [insert, lookup_cons_ite, h]
      · by_cases h : key = n
        · subst h
          simp [insert, h1, h2, Ne.symm h2]
        · simp [insert, lookup_cons_ite, h1, h2, h, ih]

theorem mem_insert {name : String} {value : α} {entries : List (String × α)}
    {e : String × α} (h : e ∈ insert name value entries) : e = (name, value) ∨ e ∈ entries := by
  induction entries with
  | nil => simpa [insert] using h
  | cons e' rest ih =>
    obtain ⟨n, v⟩ := e'
    simp only [insert] at h
    split at h
    · simpa using h
    · split at h
      · rcases List.mem_cons.1 h with h | h
        · exact Or.inl h
        · exact Or.inr (List.mem_cons_of_mem _ h)
      · rcases List.mem_cons.1 h with h | h
        · exact Or.inr (h ▸ List.mem_cons_self)
        · exact (ih h).imp id (List.mem_cons_of_mem _)

theorem ascending_insert (name : String) (value : α) {entries : List (String × α)}
    (h : Ascending entries) : Ascending (insert name value entries) := by
  induction entries with
  | nil => simp [insert, Ascending]
  | cons e rest ih =>
    obtain ⟨n, v⟩ := e
    obtain ⟨hhead, hrest⟩ := List.pairwise_cons.1 h
    simp only [insert]
    split
    · rename_i hlt
      refine List.pairwise_cons.2 ⟨fun e he => ?_, h⟩
      rcases List.mem_cons.1 he with rfl | he
      · exact hlt
      · exact String.lt_trans hlt (hhead e he)
    · rename_i hnlt
      split
      · rename_i heq
        subst heq
        exact List.pairwise_cons.2 ⟨hhead, hrest⟩
      · rename_i hne
        refine List.pairwise_cons.2 ⟨fun e he => ?_, ih hrest⟩
        rcases mem_insert he with rfl | he
        · rcases Decidable.em (n < name) with hlt | hge
          · exact hlt
          · exact absurd (String.le_antisymm (String.not_lt.1 hge) (String.not_lt.1 hnlt)) hne
        · exact hhead e he

end Named

/-- A finite map from names. -/
structure NameMap (α : Type) where
  entries : List (String × α)
  ascending : Named.Ascending entries

namespace NameMap

variable {α : Type}

def empty : NameMap α :=
  ⟨[], List.Pairwise.nil⟩

instance : Inhabited (NameMap α) := ⟨empty⟩

def get? (m : NameMap α) (name : String) : Option α :=
  m.entries.lookup name

def contains (m : NameMap α) (name : String) : Bool :=
  (m.get? name).isSome

def insert (m : NameMap α) (name : String) (value : α) : NameMap α :=
  ⟨Named.insert name value m.entries, Named.ascending_insert name value m.ascending⟩

/-- The names of the map in ascending order. -/
def names (m : NameMap α) : List String :=
  Named.names m.entries

def size (m : NameMap α) : Nat :=
  m.entries.length

/-- Changes every value in place. -/
def map (m : NameMap α) (f : α → α) : NameMap α :=
  ⟨m.entries.map fun e => (e.1, f e.2), by
    simpa [Named.Ascending, List.pairwise_map] using m.ascending⟩

theorem get?_insert (m : NameMap α) (name key : String) (value : α) :
    (m.insert name value).get? key = if key = name then some value else m.get? key :=
  Named.lookup_insert name key value m.entries

@[simp] theorem get?_insert_self (m : NameMap α) (name : String) (value : α) :
    (m.insert name value).get? name = some value := by
  simp [get?_insert]

theorem get?_insert_of_ne (m : NameMap α) {name key : String} (value : α) (h : key ≠ name) :
    (m.insert name value).get? key = m.get? key := by
  simp [get?_insert, h]

@[simp] theorem get?_empty (name : String) : (empty : NameMap α).get? name = none :=
  rfl

end NameMap

end DataMapper
