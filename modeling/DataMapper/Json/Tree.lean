import DataMapper.Json.Token
/-!
# JSON trees

Documents with the members of their objects in the order of the text, the compact text of a
document, and the reading of a text within a bound on its nesting.
-/

namespace DataMapper

inductive Json where
  | null
  | bool (b : Bool)
  | number (n : Json.Numeral)
  | text (s : String)
  | list (items : List Json)
  | object (members : List (String × Json))
  deriving Inhabited

namespace Json

mutual

/-- The tokens of a document. -/
def tokens : Json → List Token
  | null => [.null]
  | bool b => [.bool b]
  | number n => [.number n]
  | text s => [.text s.toList]
  | list [] => [.openList, .closeList]
  | list (item :: rest) => .openList :: tokens item ++ itemTokens rest
  | object [] => [.openObject, .closeObject]
  | object (m :: rest) =>
    .openObject :: .text m.1.toList :: .colon :: tokens m.2 ++ memberTokens rest

/-- The rest of a list behind one of its items. -/
def itemTokens : List Json → List Token
  | [] => [.closeList]
  | item :: rest => .comma :: tokens item ++ itemTokens rest

/-- The rest of an object behind one of its members. -/
def memberTokens : List (String × Json) → List Token
  | [] => [.closeObject]
  | m :: rest => .comma :: .text m.1.toList :: .colon :: tokens m.2 ++ memberTokens rest

end

def render (j : Json) : String :=
  String.ofList (j.tokens.flatMap Token.render)

mutual

/-- Reads a document from the front of a token sequence. The first argument bounds the recursion,
the second one the brackets that may still be opened inside each other. -/
def treeWithin : Nat → Nat → List Token → Option (Json × List Token)
  | 0, _, _ => none
  | _ + 1, _, .null :: rest => some (null, rest)
  | _ + 1, _, .bool b :: rest => some (bool b, rest)
  | _ + 1, _, .number n :: rest => some (number n, rest)
  | _ + 1, _, .text s :: rest => some (text (String.ofList s), rest)
  | _ + 1, _ + 1, .openList :: .closeList :: rest => some (list [], rest)
  | n + 1, depth + 1, .openList :: rest =>
    (treeWithin n depth rest).bind fun p =>
      (itemsWithin n depth p.2).map fun q => (list (p.1 :: q.1), q.2)
  | _ + 1, _ + 1, .openObject :: .closeObject :: rest => some (object [], rest)
  | n + 1, depth + 1, .openObject :: .text key :: .colon :: rest =>
    (treeWithin n depth rest).bind fun p =>
      (membersWithin n depth p.2).map fun q => (object ((String.ofList key, p.1) :: q.1), q.2)
  | _ + 1, _, _ => none

def itemsWithin : Nat → Nat → List Token → Option (List Json × List Token)
  | 0, _, _ => none
  | _ + 1, _, .closeList :: rest => some ([], rest)
  | n + 1, depth, .comma :: rest =>
    (treeWithin n depth rest).bind fun p =>
      (itemsWithin n depth p.2).map fun q => (p.1 :: q.1, q.2)
  | _ + 1, _, _ => none

def membersWithin : Nat → Nat → List Token → Option (List (String × Json) × List Token)
  | 0, _, _ => none
  | _ + 1, _, .closeObject :: rest => some ([], rest)
  | n + 1, depth, .comma :: .text key :: .colon :: rest =>
    (treeWithin n depth rest).bind fun p =>
      (membersWithin n depth p.2).map fun q => ((String.ofList key, p.1) :: q.1, q.2)
  | _ + 1, _, _ => none

end

/-- The brackets that a document may open inside each other. -/
def maxDepth : Nat := 127

/-- Reads a text that holds one document and nothing else. -/
def parse? (text : String) : Option Json :=
  (tokens? text.toList).bind fun ts =>
    (treeWithin (ts.length + 1) maxDepth ts).bind fun p => if p.2 = [] then some p.1 else none

end Json

end DataMapper
