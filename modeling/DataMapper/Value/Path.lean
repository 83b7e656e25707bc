import DataMapper.Error
import DataMapper.Value.Basic
/-!
# Property paths

Dotted paths into values. A path ends early at a null, and at anything else that is not a map.
-/

namespace DataMapper

/-- The parts of a text between its dots; a text without dots is its only part. -/
def splitDots : List Char → List (List Char)
  | [] => [[]]
  | c :: rest =>
    if c = '.' then [] :: splitDots rest
    else
      match splitDots rest with
      | [] => [[c]]
      | part :: parts => (c :: part) :: parts

theorem splitDots_ne_nil (s : List Char) : splitDots s ≠ [] := by
  cases s with
  | nil => simp [splitDots]
  | cons c rest =>
    simp only [splitDots]
    split
    · simp
    · split <;> simp

theorem splitDots_append_dot (a b : List Char) :
    splitDots (a ++ '.' :: b) = splitDots a ++ splitDots b := by
  induction a with
  | nil => simp [splitDots]
  | cons c rest ih =>
    by_cases h : c = '.'
    · simp [splitDots, h, ih]
    · have hne := splitDots_ne_nil rest
      simp only [List.cons_append, splitDots, h, if_false, ih]
      cases hs : splitDots rest with
      | nil => exact absurd hs hne
      | cons part parts => simp

/-- The segments of a property path. -/
def pathSegments (path : String) : List String :=
  (splitDots path.toList).map String.ofList

namespace Value

/-- Follows segments into nested maps. A map has to contain the segment. -/
def follow : Value → List String → Except BindingError Value
  | v, [] => .ok v
  | null, _ :: _ => .ok null
  | map entries, segment :: rest =>
    match entries.lookup segment with
    | some v => follow v rest
    | none => .error (.parameterNotFound segment (Named.names entries))
  | scalar, _ :: _ => .ok scalar

def resolve (v : Value) (path : String) : Except BindingError Value :=
  v.follow (pathSegments path)

end Value

end DataMapper
