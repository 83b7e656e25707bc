import DataMapper.Proofs.Json.RoundTrip
/-!
# Brackets in JSON text

How many brackets are open at once in a text, counted over its tokens, so that brackets inside of
string literals do not count. In the text of a document it is the nesting of the document.
-/

namespace DataMapper.Json

/-- The brackets that are open behind a token, of those open before it. -/
def Token.openAfter : Token → Nat → Nat
  | openList, depth => depth + 1
  | openObject, depth => depth + 1
  | closeList, depth => depth - 1
  | closeObject, depth => depth - 1
  | _, depth => depth

/-- The most brackets that are open at once along tokens, of which some were open before. -/
def deepest : Nat → List Token → Nat
  | depth, [] => depth
  | depth, t :: ts => max depth (deepest (t.openAfter depth) ts)

/-- The most brackets that are open at once in a text, if it is made of tokens. -/
def textNesting? (text : String) : Option Nat :=
  (tokens? text.toList).map (deepest 0)

theorem le_deepest (depth : Nat) (ts : List Token) : depth ≤ deepest depth ts := by
  cases ts with
  | nil => exact Nat.le_refl depth
  | cons t ts => exact Nat.le_max_left _ _

theorem deepest_cons_of_flat {t : Token} {depth : Nat} (ht : t.openAfter depth = depth)
    (ts : List Token) : deepest depth (t :: ts) = deepest depth ts := by
  rw [deepest, ht]
  exact Nat.max_eq_right (le_deepest depth ts)

-- The tokens of a document close all the brackets that they open. The rest of a list or of an
-- object closes one bracket more, the one that was opened in front of its first element.
mutual

theorem deepest_tokens (j : Json) (depth : Nat) (rest : List Token) :
    deepest depth (j.tokens ++ rest) = max (depth + j.nesting) (deepest depth rest) := by
  have hle := le_deepest depth rest
  cases j with
  | list items =>
    cases items with
    | nil =>
      simp only [tokens, List.cons_append, List.nil_append, deepest, Token.openAfter, nesting,
        itemsNesting, Nat.add_sub_cancel]
      omega
    | cons item items =>
      simp only [tokens, List.cons_append, List.append_assoc, deepest, Token.openAfter, nesting,
        itemsNesting, deepest_tokens item, deepest_itemTokens items]
      omega
  | object members =>
    cases members with
    | nil =>
      simp only [tokens, List.cons_append, List.nil_append, deepest, Token.openAfter, nesting,
        membersNesting, Nat.add_sub_cancel]
      omega
    | cons m members =>
      simp only [tokens, List.cons_append, List.append_assoc, deepest, Token.openAfter, nesting,
        membersNesting, deepest_tokens m.2, deepest_memberTokens members]
      omega
  | null | bool b | number n | text s =>
    simp only [tokens, List.cons_append, List.nil_append, nesting]
    rw [deepest_cons_of_flat rfl]
    omega

theorem deepest_itemTokens (items : List Json) (depth : Nat) (rest : List Token) :
    deepest (depth + 1) (itemTokens items ++ rest) =
      max (depth + 1 + itemsNesting items) (deepest depth rest) := by
  cases items with
  | nil =>
    simp only [itemTokens, List.cons_append, List.nil_append, deepest, Token.openAfter,
      itemsNesting, Nat.add_sub_cancel, Nat.add_zero]
  | cons item items =>
    simp only [itemTokens, List.cons_append, List.append_assoc, deepest, Token.openAfter,
      itemsNesting, deepest_tokens item, deepest_itemTokens items]
    omega

theorem deepest_memberTokens (members : List (String × Json)) (depth : Nat)
    (rest : List Token) :
    deepest (depth + 1) (memberTokens members ++ rest) =
      max (depth + 1 + membersNesting members) (deepest depth rest) := by
  cases members with
  | nil =>
    simp only [memberTokens, List.cons_append, List.nil_append, deepest, Token.openAfter,
      membersNesting, Nat.add_sub_cancel, Nat.add_zero]
  | cons m members =>
    simp only [memberTokens, List.cons_append, List.append_assoc, deepest, Token.openAfter,
      membersNesting, deepest_tokens m.2, deepest_memberTokens members]
    omega

end

theorem textNesting?_render {j : Json} (h : j.Legible) :
    textNesting? j.render = some j.nesting := by
  have htokens : tokens? (j.tokens.flatMap Token.render) = some j.tokens :=
    tokens?_render h j.apart_tokens
  have hdeepest := deepest_tokens j 0 []
  rw [List.append_nil, deepest, Nat.zero_add, Nat.max_zero] at hdeepest
  rw [textNesting?, render, String.toList_ofList, htokens, Option.map_some, hdeepest]

end DataMapper.Json
