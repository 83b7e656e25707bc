import DataMapper.Proofs.Json.Nesting
import DataMapper.Value.Json
/-!
# Reading the tagged form back

A value whose maps are in order is read back from its tagged form, and from the text of this form
unless that nests too deeply. How deeply it nests is counted over the value itself.
-/

namespace DataMapper

/-! ## Lists in order -/

namespace Named

variable {α : Type}

theorem insert_of_forall_lt {name : String} {value : α} {entries : List (String × α)}
    (h : ∀ e ∈ entries, e.1 < name) : insert name value entries = entries ++ [(name, value)] := by
  induction entries with
  | nil => rfl
  | cons e rest ih =>
    have hlt := h e List.mem_cons_self
    have hge : ¬ name < e.1 := String.lt_asymm hlt
    have hne : name ≠ e.1 := fun heq => String.lt_irrefl e.1 (heq ▸ hlt)
    rw [insert, if_neg hge, if_neg hne, ih fun e' he' => h e' (List.mem_cons_of_mem e he')]
    rfl

/-- A list that is in order stays as it is. -/
theorem ofList_of_ascending {entries : List (String × α)} (h : Ascending entries) :
    ofList entries = entries := by
  suffices hfold : ∀ acc, Ascending (acc ++ entries) →
      entries.foldl (fun acc e => insert e.1 e.2 acc) acc = acc ++ entries from
    hfold [] h
  clear h
  induction entries with
  | nil => exact fun acc _ => (List.append_nil acc).symm
  | cons e rest ih =>
    intro acc h
    have hlast : ∀ e' ∈ acc, e'.1 < e.1 :=
      fun e' he' => (List.pairwise_append.1 h).2.2 e' he' e List.mem_cons_self
    have hsplit : acc ++ e :: rest = (acc ++ [e]) ++ rest := by simp
    rw [hsplit] at h ⊢
    rw [List.foldl_cons, insert_of_forall_lt hlast]
    exact ih (acc ++ [e]) h

end Named

namespace Value

open Json (Numeral)

/-! ## Numbers -/

theorem toInt64?_ofInt (n : Int64) : (Numeral.ofInt n.toInt).toInt64? = some n := by
  have hrange : Int64.minValue.toInt ≤ n.toInt ∧ n.toInt ≤ Int64.maxValue.toInt :=
    ⟨n.minValue_le_toInt, n.toInt_le⟩
  rw [Numeral.toInt64?, Numeral.toInt?_ofInt, Option.bind_some, if_pos hrange, Int64.ofInt_toInt]

theorem toUInt64?_ofNat (n : UInt64) : (Numeral.ofNat n.toNat).toUInt64? = some n := by
  have hrange : 0 ≤ (n.toNat : Int) ∧ (n.toNat : Int) < UInt64.size :=
    ⟨Int.natCast_nonneg _, Int.ofNat_lt.2 n.toNat_lt⟩
  rw [Numeral.toUInt64?, Numeral.toInt?_ofNat, Option.bind_some, if_pos hrange, Int.toNat_natCast,
    UInt64.ofNat_toNat]

theorem toUInt8?_ofNat (n : UInt8) : (Numeral.ofNat n.toNat).toUInt8? = some n := by
  have hrange : 0 ≤ (n.toNat : Int) ∧ (n.toNat : Int) < UInt8.size :=
    ⟨Int.natCast_nonneg _, Int.ofNat_lt.2 n.toNat_lt⟩
  rw [Numeral.toUInt8?, Numeral.toInt?_ofNat, Option.bind_some, if_pos hrange, Int.toNat_natCast,
    UInt8.ofNat_toNat]

theorem bytesOfJson?_numbers (b : List UInt8) :
    bytesOfJson? (b.map fun x => .number (.ofNat x.toNat)) = some b := by
  induction b with
  | nil => rfl
  | cons x rest ih =>
    rw [List.map_cons, bytesOfJson?, byteOfJson?, toUInt8?_ofNat, Option.bind_some, ih]
    rfl

/-! ## Values -/

mutual

theorem ofJson?_toJson (v : Value) (hv : v.Ordered) : ofJson? v.toJson = some v := by
  cases v with
  | null => rfl
  | bool b => rfl
  | int n => simp [toJson, ofJson?, ofTagged?, toInt64?_ofInt]
  | float bits => simp [toJson, ofJson?, ofTagged?, toUInt64?_ofNat]
  | text s => rfl
  | bytes b => simp [toJson, ofJson?, ofTagged?, bytesOfJson?_numbers]
  | list items => simp [toJson, ofJson?, ofTagged?, itemsOfJson?_itemsToJson items hv]
  | map entries =>
    simp [toJson, ofJson?, ofTagged?, entriesOfJson?_entriesToJson entries hv.2, ofPairs,
      Named.ofList_of_ascending hv.1]

theorem itemsOfJson?_itemsToJson (items : List Value) (h : OrderedItems items) :
    itemsOfJson? (itemsToJson items) = some items := by
  cases items with
  | nil => rfl
  | cons v rest =>
    rw [itemsToJson, itemsOfJson?, ofJson?_toJson v h.1, Option.bind_some,
      itemsOfJson?_itemsToJson rest h.2]
    rfl

theorem entriesOfJson?_entriesToJson (entries : List (String × Value))
    (h : OrderedEntries entries) : entriesOfJson? (entriesToJson entries) = some entries := by
  cases entries with
  | nil => rfl
  | cons e rest =>
    rw [entriesToJson, entriesOfJson?, ofJson?_toJson e.2 h.1, Option.bind_some,
      entriesOfJson?_entriesToJson rest h.2]
    rfl

end

theorem legible_number {n : Numeral} (h : n.Legible) : (Json.number n).Legible :=
  fun _ ht => List.mem_singleton.1 ht ▸ h

theorem legible_member {tag : String} {j : Json} (h : j.Legible) :
    (Json.object [(tag, j)]).Legible :=
  Json.legible_object fun _ hm => List.mem_singleton.1 hm ▸ h

mutual

/-- All numerals of a tagged form are decimal ones of integers. -/
theorem legible_toJson (v : Value) : v.toJson.Legible := by
  cases v with
  | null => exact fun _ ht => List.mem_singleton.1 ht ▸ trivial
  | bool b => exact legible_member fun _ ht => List.mem_singleton.1 ht ▸ trivial
  | int n => exact legible_member (legible_number (Numeral.legible_toDigits _ _))
  | float bits => exact legible_member (legible_number (Numeral.legible_toDigits _ _))
  | text s => exact legible_member fun _ ht => List.mem_singleton.1 ht ▸ trivial
  | bytes b =>
    refine legible_member (Json.legible_list fun item hitem => ?_)
    obtain ⟨x, _, rfl⟩ := List.mem_map.1 hitem
    exact legible_number (Numeral.legible_toDigits _ _)
  | list items => exact legible_member (Json.legible_list (legible_itemsToJson items))
  | map entries => exact legible_member (Json.legible_object (legible_entriesToJson entries))

theorem legible_itemsToJson (items : List Value) : ∀ j ∈ itemsToJson items, j.Legible := by
  cases items with
  | nil => exact fun _ hj => nomatch hj
  | cons v rest =>
    intro j hj
    rcases List.mem_cons.1 hj with rfl | hj
    · exact legible_toJson v
    · exact legible_itemsToJson rest j hj

theorem legible_entriesToJson (entries : List (String × Value)) :
    ∀ m ∈ entriesToJson entries, m.2.Legible := by
  cases entries with
  | nil => exact fun _ hm => nomatch hm
  | cons e rest =>
    intro m hm
    rcases List.mem_cons.1 hm with rfl | hm
    · exact legible_toJson e.2
    · exact legible_entriesToJson rest m hm

end

theorem parse?_jsonText {v : Value} (hv : v.Ordered) (hdepth : v.toJson.nesting ≤ Json.maxDepth) :
    parse? v.jsonText = some v := by
  rw [parse?, jsonText, Json.parse?_render v.legible_toJson hdepth, Option.bind_some,
    ofJson?_toJson v hv]

/-! ## Nesting -/

mutual

/-- The brackets that the text of the tagged form opens inside each other. A null has none. The tag
takes one, and bytes, lists and maps stand in one more. -/
def brackets : Value → Nat
  | null => 0
  | bytes _ => 2
  | list items => 2 + itemsBrackets items
  | map entries => 2 + entriesBrackets entries
  | _ => 1

/-- The brackets of the deepest element. -/
def itemsBrackets : List Value → Nat
  | [] => 0
  | v :: rest => max (brackets v) (itemsBrackets rest)

def entriesBrackets : List (String × Value) → Nat
  | [] => 0
  | e :: rest => max (brackets e.2) (entriesBrackets rest)

end

theorem nesting_member (tag : String) (j : Json) :
    (Json.object [(tag, j)]).nesting = j.nesting + 1 := by
  simp [Json.nesting, Json.membersNesting]

theorem itemsNesting_numbers (b : List UInt8) :
    Json.itemsNesting (b.map fun x => .number (.ofNat x.toNat)) = 0 := by
  induction b with
  | nil => rfl
  | cons x rest ih =>
    rw [List.map_cons, Json.itemsNesting, ih]
    rfl

mutual

theorem nesting_toJson (v : Value) : v.toJson.nesting = v.brackets := by
  cases v with
  | null => rfl
  | bool b => rfl
  | int n => rfl
  | float bits => rfl
  | text s => rfl
  | bytes b => rw [toJson, nesting_member, Json.nesting, itemsNesting_numbers, brackets]
  | list items =>
    rw [toJson, nesting_member, Json.nesting, itemsNesting_itemsToJson items, brackets]
    omega
  | map entries =>
    rw [toJson, nesting_member, Json.nesting, membersNesting_entriesToJson entries, brackets]
    omega

theorem itemsNesting_itemsToJson (items : List Value) :
    Json.itemsNesting (itemsToJson items) = itemsBrackets items := by
  cases items with
  | nil => rfl
  | cons v rest =>
    rw [itemsToJson, Json.itemsNesting, nesting_toJson v, itemsNesting_itemsToJson rest,
      itemsBrackets]

theorem membersNesting_entriesToJson (entries : List (String × Value)) :
    Json.membersNesting (entriesToJson entries) = entriesBrackets entries := by
  cases entries with
  | nil => rfl
  | cons e rest =>
    rw [entriesToJson, Json.membersNesting, nesting_toJson e.2, membersNesting_entriesToJson rest,
      entriesBrackets]

end

theorem textNesting?_jsonText (v : Value) : Json.textNesting? v.jsonText = some v.brackets := by
  rw [jsonText, Json.textNesting?_render v.legible_toJson, nesting_toJson]

theorem parse?_jsonText_of_deep {v : Value} (hdepth : Json.maxDepth < v.brackets) :
    parse? v.jsonText = none := by
  rw [← nesting_toJson] at hdepth
  rw [parse?, jsonText, Json.parse?_render_of_deep v.legible_toJson hdepth, Option.bind_none]

/-- The text of a value nests as many brackets as the value has. It is read as this very value if
these are at most 127, and refused if they are more: it is never read as another value. -/
theorem jsonText_is_read_back_or_refused {v : Value} (hv : v.Ordered) :
    Json.textNesting? v.jsonText = some v.brackets ∧
      parse? v.jsonText = (if v.brackets ≤ 127 then some v else none) ∧
      ∀ w, parse? v.jsonText = some w → w = v := by
  have hparse : parse? v.jsonText = if v.brackets ≤ 127 then some v else none := by
    by_cases hdepth : v.brackets ≤ 127
    · rw [if_pos hdepth]
      exact parse?_jsonText hv (v.nesting_toJson ▸ hdepth)
    · rw [if_neg hdepth]
      exact parse?_jsonText_of_deep (Nat.lt_of_not_le hdepth)
  refine ⟨v.textNesting?_jsonText, hparse, fun w hw => ?_⟩
  rw [hparse] at hw
  split_ifs at hw
  exact (Option.some.inj hw).symm

/-- A value inside of lists that hold nothing else. -/
def nested : Nat → Value → Value
  | 0, v => v
  | n + 1, v => list [nested n v]

theorem ordered_nested {v : Value} (hv : v.Ordered) (n : Nat) : (nested n v).Ordered := by
  induction n with
  | zero => exact hv
  | succ n ih => exact ⟨ih, trivial⟩

theorem brackets_nested (n : Nat) (v : Value) : (nested n v).brackets = 2 * n + v.brackets := by
  induction n with
  | zero => simp [nested]
  | succ n ih =>
    rw [nested, brackets, itemsBrackets, itemsBrackets, ih]
    omega

/-- A number is read back from inside of 63 lists, and a null is refused inside of 64. The row has a
float that is no number, a zero with a sign, and texts with quotes, control characters and signs of
several bytes. -/
theorem rows_are_read_back_from_63_lists :
    let row := map [("", float 0x7ff8000000000001), ("a\"\\", float 0x8000000000000000),
      ("n\n\x01é😀", int Int64.minValue), ("z", bytes [0, 255])]
    parse? row.jsonText = some row ∧
      parse? (nested 63 (int 1)).jsonText = some (nested 63 (int 1)) ∧
      parse? (nested 64 null).jsonText = none := by
  intro row
  have hascending : Named.Ascending [("", float 0x7ff8000000000001),
      ("a\"\\", float 0x8000000000000000), ("n\n\x01é😀", int Int64.minValue),
      ("z", bytes [0, 255])] := by
    unfold Named.Ascending
    decide
  have hrow : row.Ordered := ⟨hascending, trivial, trivial, trivial, trivial, trivial⟩
  have hone : (int 1).Ordered := trivial
  have hnull : null.Ordered := trivial
  refine ⟨?_, ?_, ?_⟩
  · rw [(jsonText_is_read_back_or_refused hrow).2.1, if_pos (by decide)]
  · rw [(jsonText_is_read_back_or_refused (ordered_nested hone 63)).2.1,
      if_pos (by rw [brackets_nested]; decide)]
  · rw [(jsonText_is_read_back_or_refused (ordered_nested hnull 64)).2.1,
      if_neg (by rw [brackets_nested]; decide)]

end Value

namespace Rows

/-- The brackets that are open inside each other in the text of rows. -/
def nesting (rows : Rows) : Nat :=
  (Json.list (Value.itemsToJson rows)).nesting

/-- Rows are read back from their text, unless that nests too deeply. -/
theorem parse?_jsonText {rows : Rows} (hrows : Value.OrderedItems rows)
    (hdepth : nesting rows ≤ Json.maxDepth) : parse? (jsonText rows) = some rows := by
  have hlegible : (Json.list (Value.itemsToJson rows)).Legible :=
    Json.legible_list (Value.legible_itemsToJson rows)
  rw [parse?, jsonText, Json.parse?_render hlegible hdepth]
  exact Value.itemsOfJson?_itemsToJson rows hrows

/-- Rows whose text nests too deeply are not read back. -/
theorem parse?_jsonText_of_deep {rows : Rows} (hdepth : Json.maxDepth < nesting rows) :
    parse? (jsonText rows) = none := by
  have hlegible : (Json.list (Value.itemsToJson rows)).Legible :=
    Json.legible_list (Value.legible_itemsToJson rows)
  rw [parse?, jsonText, Json.parse?_render_of_deep hlegible hdepth]

end Rows

end DataMapper
