import DataMapper.Key
import Mathlib.Data.List.Induction
import Mathlib.Tactic.Ring
/-!
# Reading the binary form back

A value is read back from its bytes, whatever follows them, as long as its lengths fit into the four
bytes that they are written in. A key is told by its bytes as soon as they are not too many.
-/

namespace DataMapper

/-! ## Numbers, byte sequences and texts -/

namespace Text

theorem ofLittleEndian_littleEndian (width n : Nat) :
    ofLittleEndian (littleEndian width n) = n % 256 ^ width := by
  induction width generalizing n with
  | zero => simp [littleEndian, ofLittleEndian, Nat.mod_one]
  | succ width ih =>
    have hbyte : (UInt8.ofNat (n % 256)).toNat = n % 256 := by
      rw [UInt8.toNat_ofNat']
      omega
    rw [littleEndian, ofLittleEndian, ih, hbyte, pow_succ', Nat.mod_mul]

theorem ofUtf8?_utf8 (s : String) : ofUtf8? (utf8 s) = some s := by
  unfold ofUtf8? utf8 String.fromUTF8?
  exact dif_pos s.isValidUTF8

end Text

namespace Value

open Text

/-- The first length that four bytes cannot tell any more, 2 to the power of 32. -/
def lengthBound : Nat :=
  4294967296

theorem readNat?_append (width n : Nat) (rest : List UInt8) :
    readNat? width (littleEndian width n ++ rest) = some (n % 256 ^ width, rest) := by
  have hsplit := splitAt?_append (littleEndian width n) rest
  rw [length_littleEndian] at hsplit
  rw [readNat?, hsplit, Option.map_some, ofLittleEndian_littleEndian]

theorem readNat?_length {n : Nat} (hn : n < lengthBound) (rest : List UInt8) :
    readNat? 4 (littleEndian 4 n ++ rest) = some (n, rest) := by
  rw [readNat?_append, Nat.mod_eq_of_lt]
  exact hn

theorem readNat?_word (w : UInt64) (rest : List UInt8) :
    readNat? 8 (littleEndian 8 w.toNat ++ rest) = some (w.toNat, rest) := by
  rw [readNat?_append, Nat.mod_eq_of_lt]
  exact w.toNat_lt

theorem readBytes?_encodeBytes {b : List UInt8} (hb : b.length < lengthBound)
    (rest : List UInt8) : readBytes? (encodeBytes b ++ rest) = some (b, rest) := by
  rw [encodeBytes, List.append_assoc, readBytes?, readNat?_length hb, Option.bind_some,
    splitAt?_append]

theorem readText?_encodeBytes {s : String} (hs : (utf8 s).length < lengthBound)
    (rest : List UInt8) : readText? (encodeBytes (utf8 s) ++ rest) = some (s, rest) := by
  rw [readText?, readBytes?_encodeBytes hs, Option.bind_some, ofUtf8?_utf8, Option.map_some]

/-! ## Values -/

mutual

/-- Every length inside the value fits into four bytes. -/
def Bounded : Value → Prop
  | text s => (utf8 s).length < lengthBound
  | bytes b => b.length < lengthBound
  | list items => items.length < lengthBound ∧ BoundedItems items
  | map entries => entries.length < lengthBound ∧ BoundedEntries entries
  | _ => True

def BoundedItems : List Value → Prop
  | [] => True
  | v :: rest => Bounded v ∧ BoundedItems rest

def BoundedEntries : List (String × Value) → Prop
  | [] => True
  | e :: rest => (utf8 e.1).length < lengthBound ∧ Bounded e.2 ∧ BoundedEntries rest

end

theorem length_encode_pos (v : Value) : 0 < (encode v).length := by
  cases v <;> simp [encode]

theorem length_encodeBytes (b : List UInt8) : (encodeBytes b).length = 4 + b.length := by
  rw [encodeBytes, List.length_append, length_littleEndian]

-- Each level of nesting and each element takes a byte at least, so that as many steps as there are
-- bytes suffice; a sequence takes one more step for its end.
mutual

theorem decodeWithin_encode (v : Value) (hv : v.Bounded) (rest : List UInt8) {n : Nat}
    (hn : (encode v).length ≤ n) : decodeWithin n (encode v ++ rest) = some (v, rest) := by
  cases n with
  | zero => exact absurd v.length_encode_pos (Nat.not_lt.2 hn)
  | succ n =>
    cases v with
    | null => simp [encode, decodeWithin]
    | bool b => cases b <;> simp [encode, decodeWithin, boolByte]
    | int i =>
      have hword : (UInt64.ofNat i.toUInt64.toNat).toInt64 = i := by
        rw [UInt64.ofNat_toNat, Int64.toInt64_toUInt64]
      simp only [encode, List.cons_append, decodeWithin, readNat?_word, Option.map_some, hword]
      rfl
    | float bits => simp [encode, decodeWithin, readNat?_word]
    | text s => simp [encode, decodeWithin, readText?_encodeBytes hv]
    | bytes b => simp [encode, decodeWithin, readBytes?_encodeBytes hv]
    | list items =>
      have hitems : (encodeItems items).length < n := by
        simp only [encode, List.length_cons, List.length_append, length_littleEndian] at hn
        omega
      simp [encode, decodeWithin, readNat?_length hv.1,
        decodeItems_encodeItems items hv.2 rest hitems]
    | map entries =>
      have hentries : (encodeEntries entries).length < n := by
        simp only [encode, List.length_cons, List.length_append, length_littleEndian] at hn
        omega
      simp [encode, decodeWithin, readNat?_length hv.1,
        decodeEntries_encodeEntries entries hv.2 rest hentries]

theorem decodeItems_encodeItems (items : List Value) (h : BoundedItems items) (rest : List UInt8)
    {n : Nat} (hn : (encodeItems items).length < n) :
    decodeItems n items.length (encodeItems items ++ rest) = some (items, rest) := by
  cases n with
  | zero => exact absurd hn (Nat.not_lt_zero _)
  | succ n =>
    cases items with
    | nil => rfl
    | cons v items =>
      have hpos := v.length_encode_pos
      rw [encodeItems, List.length_append] at hn
      have hfirst : decodeWithin n (encode v ++ (encodeItems items ++ rest)) =
          some (v, encodeItems items ++ rest) := decodeWithin_encode v h.1 _ (by omega)
      have hothers : decodeItems n items.length (encodeItems items ++ rest) = some (items, rest) :=
        decodeItems_encodeItems items h.2 rest (by omega)
      rw [encodeItems, List.append_assoc, List.length_cons, decodeItems, hfirst, Option.bind_some,
        hothers]
      rfl

theorem decodeEntries_encodeEntries (entries : List (String × Value)) (h : BoundedEntries entries)
    (rest : List UInt8) {n : Nat} (hn : (encodeEntries entries).length < n) :
    decodeEntries n entries.length (encodeEntries entries ++ rest) = some (entries, rest) := by
  cases n with
  | zero => exact absurd hn (Nat.not_lt_zero _)
  | succ n =>
    cases entries with
    | nil => rfl
    | cons e entries =>
      have hpos := length_encodeBytes (utf8 e.1)
      rw [encodeEntries, List.length_append, List.length_append] at hn
      have hfirst : decodeWithin n (encode e.2 ++ (encodeEntries entries ++ rest)) =
          some (e.2, encodeEntries entries ++ rest) := decodeWithin_encode e.2 h.2.1 _ (by omega)
      have hothers : decodeEntries n entries.length (encodeEntries entries ++ rest) =
          some (entries, rest) := decodeEntries_encodeEntries entries h.2.2 rest (by omega)
      rw [encodeEntries, List.append_assoc, List.append_assoc, List.length_cons, decodeEntries,
        readText?_encodeBytes h.1, Option.bind_some, hfirst, Option.bind_some, hothers]
      rfl

end

theorem decode?_encode (v : Value) (hv : v.Bounded) (rest : List UInt8) :
    decode? (encode v ++ rest) = some (v, rest) := by
  have hsteps : (encode v).length ≤ (encode v ++ rest).length + 1 := by
    rw [List.length_append]
    omega
  exact decodeWithin_encode v hv rest hsteps

/-- Bytes that begin with those of a value are read as this value. -/
theorem eq_of_encode_prefix {v v' : Value} (hv : v.Bounded) (hv' : v'.Bounded)
    (h : encode v <+: encode v') : v = v' := by
  obtain ⟨rest, hrest⟩ := h
  have hread : decode? (encode v') = some (v, rest) := by
    rw [← hrest]
    exact v.decode?_encode hv rest
  have hread' : decode? (encode v') = some (v', []) := by
    simpa using v'.decode?_encode hv' []
  rw [hread, Option.some.injEq, Prod.mk.injEq] at hread'
  exact hread'.1

/-! ## Values of few bytes -/

theorem length_le_encodeItems (items : List Value) : items.length ≤ (encodeItems items).length := by
  induction items with
  | nil => exact Nat.le_refl 0
  | cons v rest ih =>
    have hpos := v.length_encode_pos
    rw [encodeItems, List.length_append, List.length_cons]
    omega

theorem length_le_encodeEntries (entries : List (String × Value)) :
    entries.length ≤ (encodeEntries entries).length := by
  induction entries with
  | nil => exact Nat.le_refl 0
  | cons e rest ih =>
    have hpos := e.2.length_encode_pos
    rw [encodeEntries, List.length_append, List.length_append, List.length_cons]
    omega

mutual

theorem bounded_of_length (v : Value) (hv : (encode v).length < lengthBound) : v.Bounded := by
  cases v with
  | null => trivial
  | bool b => trivial
  | int i => trivial
  | float bits => trivial
  | text s =>
    rw [encode, List.length_cons, length_encodeBytes] at hv
    exact Nat.lt_of_le_of_lt (by omega) hv
  | bytes b =>
    rw [encode, List.length_cons, length_encodeBytes] at hv
    exact Nat.lt_of_le_of_lt (by omega) hv
  | list items =>
    have hcount := length_le_encodeItems items
    rw [encode, List.length_append, List.length_cons, length_littleEndian] at hv
    exact ⟨by omega, boundedItems_of_length items (by omega)⟩
  | map entries =>
    have hcount := length_le_encodeEntries entries
    rw [encode, List.length_append, List.length_cons, length_littleEndian] at hv
    exact ⟨by omega, boundedEntries_of_length entries (by omega)⟩

theorem boundedItems_of_length (items : List Value)
    (h : (encodeItems items).length < lengthBound) : BoundedItems items := by
  cases items with
  | nil => trivial
  | cons v rest =>
    rw [encodeItems, List.length_append] at h
    exact ⟨bounded_of_length v (by omega), boundedItems_of_length rest (by omega)⟩

theorem boundedEntries_of_length (entries : List (String × Value))
    (h : (encodeEntries entries).length < lengthBound) : BoundedEntries entries := by
  cases entries with
  | nil => trivial
  | cons e rest =>
    rw [encodeEntries, List.length_append, List.length_append, length_encodeBytes] at h
    exact ⟨by omega, bounded_of_length e.2 (by omega), boundedEntries_of_length rest (by omega)⟩

end

end Value

/-! ## Keys -/

theorem Fingerprint.count_ofComponents (components : List Value) :
    (Fingerprint.ofComponents components).count = UInt64.ofNat components.length := by
  induction components using List.reverseRecOn with
  | nil => rfl
  | append_singleton components c ih =>
    rw [ofComponents_concat, List.length_append, List.length_singleton, UInt64.ofNat_add, ← ih]
    rfl

namespace CacheKey

open Text Value

theorem count_eq (k : CacheKey) : k.count = k.components.length % UInt64.size := by
  rw [count, k.fingerprint_eq, Fingerprint.count_ofComponents]
  exact UInt64.toNat_ofNat'

/-- Every length inside the key and the number of its components fit into four bytes. -/
def Bounded (k : CacheKey) : Prop :=
  k.components.length < lengthBound ∧ BoundedItems k.components

theorem bounded_of_length {k : CacheKey} (h : k.encode.length < lengthBound) : k.Bounded := by
  have hcount := length_le_encodeItems k.components
  rw [encode, List.length_append, length_littleEndian] at h
  exact ⟨by omega, boundedItems_of_length k.components (by omega)⟩

/-- The components are read back from the bytes of a key, whatever follows them. -/
theorem decode?_encode (k : CacheKey) (hk : k.Bounded) (rest : List UInt8) :
    decode? (k.encode ++ rest) = some (k.components, rest) := by
  obtain ⟨hlength, hcomponents⟩ := hk
  have hcount : k.count = k.components.length := by
    rw [count_eq, Nat.mod_eq_of_lt]
    exact Nat.lt_trans hlength (by decide)
  have hsteps : (encodeItems k.components).length < (k.encode ++ rest).length + 1 := by
    rw [encode, List.length_append, List.length_append]
    omega
  unfold decode?
  generalize (k.encode ++ rest).length + 1 = n at hsteps
  rw [encode, hcount, List.append_assoc, readNat?_length hlength, Option.bind_some,
    decodeItems_encodeItems k.components hcomponents rest hsteps]

theorem eq_of_encode_eq_of_bounded {k k' : CacheKey} (hk : k.Bounded) (hk' : k'.Bounded)
    (h : k.encode = k'.encode) : k = k' := by
  have hread := k.decode?_encode hk []
  have hread' := k'.decode?_encode hk' []
  rw [h, hread', Option.some.injEq, Prod.mk.injEq] at hread
  exact ext hread.1.symm

/-- Keys with the same bytes are the same, unless there are more bytes than four bytes can count. -/
theorem eq_of_encode_eq {k k' : CacheKey} (hlength : k.encode.length < lengthBound)
    (h : k.encode = k'.encode) : k = k' :=
  eq_of_encode_eq_of_bounded (bounded_of_length hlength) (bounded_of_length (h ▸ hlength)) h

theorem encode_eq_iff {k k' : CacheKey} (hk : k.Bounded) (hk' : k'.Bounded) :
    k.encode = k'.encode ↔ k.agrees k' = true := by
  rw [agrees_iff]
  constructor
  · exact eq_of_encode_eq_of_bounded hk hk'
  · intro h
    rw [h]

end CacheKey

/-! ## One decoder for values and keys -/

/-- Values and keys are read back from their bytes, whatever follows these, as long as every length
in them fits into four bytes. So the bytes of a value never begin with those of another one, and
keys have the same bytes if and only if they are compared as the same. -/
theorem decoding_undoes_encoding {v v' : Value} {k k' : CacheKey} (hv : v.Bounded)
    (hv' : v'.Bounded) (hk : k.Bounded) (hk' : k'.Bounded) :
    (∀ rest, Value.decode? (v.encode ++ rest) = some (v, rest)) ∧
      (∀ rest, CacheKey.decode? (k.encode ++ rest) = some (k.components, rest)) ∧
      (v ≠ v' → ¬ v.encode <+: v'.encode ∧ ¬ v'.encode <+: v.encode) ∧
      (k.encode = k'.encode ↔ k.agrees k' = true) := by
  refine ⟨v.decode?_encode hv, k.decode?_encode hk, fun hne => ⟨?_, ?_⟩,
    CacheKey.encode_eq_iff hk hk'⟩
  · intro h
    exact hne (Value.eq_of_encode_prefix hv hv' h)
  · intro h
    exact hne (Value.eq_of_encode_prefix hv' hv h).symm

/-- Bytes tell a list of two numbers from a list of one that another number follows. -/
theorem decoding_tells_nesting :
    let v := Value.list [.int 1, .int 2]
    let v' := Value.list [.int 1]
    let k := CacheKey.ofComponents [.text "find", v]
    let k' := CacheKey.ofComponents [.text "find", v', .int 2]
    Value.decode? (v'.encode ++ Value.encode (.int 2)) = some (v', Value.encode (.int 2)) ∧
      CacheKey.decode? k.encode = some ([.text "find", v], []) ∧
      ¬ v.encode <+: v'.encode ∧ ¬ v'.encode <+: v.encode ∧ k.encode ≠ k'.encode := by
  intro v v' k k'
  have hfind : (Text.utf8 "find").length < Value.lengthBound := by decide +kernel
  have hv : v.Bounded := ⟨by decide, trivial, trivial, trivial⟩
  have hv' : v'.Bounded := ⟨by decide, trivial, trivial⟩
  have hk : k.Bounded := ⟨by decide, hfind, hv, trivial⟩
  have hk' : k'.Bounded := ⟨by decide, hfind, hv', trivial, trivial⟩
  have hne : v ≠ v' := by decide
  obtain ⟨-, hkey, hapart, hkeys⟩ := decoding_undoes_encoding hv hv' hk hk'
  have hread := (decoding_undoes_encoding hv' hv hk hk').1 (Value.encode (.int 2))
  refine ⟨hread, hkey [], (hapart hne).1, (hapart hne).2, fun h => ?_⟩
  have hsame : k = k' := (CacheKey.agrees_iff k k').1 (hkeys.1 h)
  exact absurd (congrArg CacheKey.components hsame) (by decide)

end DataMapper
