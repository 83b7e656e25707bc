import DataMapper.Statement
import DataMapper.Value.Binary
import DataMapper.Value.Hash
import DataMapper.Value.Path
import DataMapper.Value.Print
/-!
# Cache keys

Sequences of components under which rows are cached. A fingerprint tells most distinct keys apart
before their components are compared; it is a function of the components, so that it never decides
otherwise than they do.
-/

namespace DataMapper

/-- A running digest of components and of their positions. -/
structure Fingerprint where
  hashcode : UInt64 := 17
  checksum : UInt64 := 0
  count : UInt64 := 0
  deriving DecidableEq, Repr

namespace Fingerprint

def empty : Fingerprint := {}

/-- Adds the hash of the next component. -/
def add (f : Fingerprint) (hash : UInt64) : Fingerprint :=
  let count := f.count + 1
  { hashcode := 37 * f.hashcode + hash * count, checksum := f.checksum + hash, count }

def ofComponents (components : List Value) : Fingerprint :=
  components.foldl (fun f c => f.add c.hash) empty

theorem ofComponents_concat (components : List Value) (c : Value) :
    ofComponents (components ++ [c]) = (ofComponents components).add c.hash := by
  simp [ofComponents, List.foldl_append]

end Fingerprint

/-- A sequence of components together with its fingerprint. -/
structure CacheKey where
  components : List Value
  fingerprint : Fingerprint
  fingerprint_eq : fingerprint = .ofComponents components

namespace CacheKey

def empty : CacheKey :=
  ⟨[], .empty, rfl⟩

instance : Inhabited CacheKey := ⟨empty⟩

/-- Appends a component. -/
def update (k : CacheKey) (c : Value) : CacheKey :=
  ⟨k.components ++ [c], k.fingerprint.add c.hash, by
    rw [k.fingerprint_eq, Fingerprint.ofComponents_concat]⟩

/-- Appends components in order. -/
def updateAll (k : CacheKey) (components : List Value) : CacheKey :=
  components.foldl update k

def ofComponents (components : List Value) : CacheKey :=
  empty.updateAll components

@[simp] theorem components_update (k : CacheKey) (c : Value) :
    (k.update c).components = k.components ++ [c] :=
  rfl

@[simp] theorem components_updateAll (k : CacheKey) (cs : List Value) :
    (k.updateAll cs).components = k.components ++ cs := by
  induction cs generalizing k with
  | nil => simp [updateAll]
  | cons c cs ih =>
    have h := ih (k.update c)
    simp only [updateAll, List.foldl_cons] at h ⊢
    simp [h]

@[simp] theorem components_ofComponents (cs : List Value) :
    (ofComponents cs).components = cs := by
  simp [ofComponents, empty]

theorem ext {a b : CacheKey} (h : a.components = b.components) : a = b := by
  obtain ⟨as, fa, ha⟩ := a
  obtain ⟨bs, fb, hb⟩ := b
  simp only at h
  subst h ha hb
  rfl

/-- The comparison of keys: the fingerprints first, and the components only if they agree. -/
def agrees (a b : CacheKey) : Bool :=
  if a.fingerprint.hashcode ≠ b.fingerprint.hashcode ∨
      a.fingerprint.checksum ≠ b.fingerprint.checksum ∨
      a.fingerprint.count ≠ b.fingerprint.count then false
  else a.components = b.components

theorem agrees_iff (a b : CacheKey) : a.agrees b = true ↔ a = b := by
  constructor
  · intro h
    unfold agrees at h
    split at h
    · exact absurd h (by simp)
    · exact ext (by simpa using h)
  · rintro rfl
    simp [agrees]

instance : DecidableEq CacheKey := fun a b =>
  decidable_of_iff (a.agrees b = true) (agrees_iff a b)

def hashcode (k : CacheKey) : UInt64 :=
  k.fingerprint.hashcode

def checksum (k : CacheKey) : UInt64 :=
  k.fingerprint.checksum

def count (k : CacheKey) : Nat :=
  k.fingerprint.count.toNat

/-- A bound as a component. All bounds beyond the greatest integer mean the same. -/
def boundValue (bound : UInt64) : Value :=
  .int (if bound ≤ Int64.maxValue.toUInt64 then bound.toInt64 else Int64.maxValue)

/-- The parameter values that enter a key: those of all parameters that are not output only. -/
def boundValues (parameter : Value) : List ParameterMapping → Except BindingError (List Value)
  | [] => .ok []
  | m :: rest =>
    if m.mode = .output then boundValues parameter rest
    else
      match parameter.resolve m.property with
      | .error e => .error e
      | .ok v =>
        match boundValues parameter rest with
        | .error e => .error e
        | .ok vs => .ok (v :: vs)

/-- The key of one execution: the statement, its parameter values, the bounds and the
environment. -/
def forStatement (statement : MappedStatement) (parameter : Value) (bounds : RowBounds)
    (environment : String) : Except BindingError CacheKey :=
  match boundValues parameter statement.parameterMappings with
  | .error e => .error e
  | .ok values =>
    .ok (ofComponents (.text statement.id :: values ++
      [boundValue bounds.offset, boundValue bounds.limit, .text environment]))

/-- The binary form: the number of components, then each of them. -/
def encode (k : CacheKey) : List UInt8 :=
  Text.littleEndian 4 k.count ++ Value.encodeItems k.components

/-- Reads the components of a key from its binary form. -/
def decode? (input : List UInt8) : Option (List Value × List UInt8) :=
  (Value.readNat? 4 input).bind fun p => Value.decodeItems (input.length + 1) p.1 p.2

/-- The text of a key: hash code, checksum and components between colons. -/
def plain (k : CacheKey) : String :=
  ":".intercalate (toString k.hashcode :: toString k.checksum :: k.components.map Value.plain)

end CacheKey

end DataMapper
