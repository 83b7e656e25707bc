import DataMapper.Json.Tree
import Mathlib.Data.List.Chain
import Mathlib.Tactic.SplitIfs
/-!
# Reading JSON text back

The compact text of a document is cut into the tokens that it was made of, and these are put
together to the document again, provided that the document does not nest too deeply and that its
numerals read as themselves.
-/

namespace DataMapper.Json

/-! ## Numerals -/

namespace Numeral

/-- The literal reads as itself where it stands alone, and nothing in it ends a literal. -/
structure Legible (n : Numeral) : Prop where
  reads : ofChars? n.render = some n
  chars : ∀ c ∈ n.render, isNumeralChar c = true
  nonempty : n.render ≠ []

theorem digitsValue_toDigits (n : Nat) : digitsValue (Nat.toDigits 10 n) = n :=
  Nat.ofDigitChars_ten_toDigits

theorem isDigit_toDigits {n : Nat} {c : Char} (hc : c ∈ Nat.toDigits 10 n) : c.isDigit = true :=
  Nat.isDigit_of_mem_toDigits (by omega) (Nat.le_refl 10) hc

/-- No literal but that of zero starts with a zero. -/
theorem eq_zero_of_head?_toDigits {n : Nat} (h : (Nat.toDigits 10 n).head? = some '0') :
    n = 0 := by
  have hdigit : ∀ d < 10, Nat.digitChar d = '0' → d = 0 := by decide
  induction n using Nat.strongRecOn with
  | ind n ih =>
    by_cases hn : n < 10
    · rw [Nat.toDigits_of_lt_base hn] at h
      exact hdigit n hn (Option.some.inj h)
    · rw [Nat.toDigits_of_base_le (by omega) (by omega), List.head?_append,
        Option.or_of_isSome (by simp)] at h
      have hrest := ih (n / 10) (by omega) h
      omega

theorem signPart_of_digits {digits : List Char} (h : ∀ c ∈ digits, c.isDigit = true) :
    signPart digits = (false, digits) := by
  unfold signPart
  split
  · have hminus := h '-' List.mem_cons_self
    simp at hminus
  · rfl

theorem ofChars?_digits (negative : Bool) {digits : List Char}
    (hdigits : ∀ c ∈ digits, c.isDigit = true) (hne : digits ≠ [])
    (hzero : digits.head? = some '0' → digits = ['0']) :
    ofChars? ((if negative then ['-'] else []) ++ digits) =
      some ⟨negative, digits, none, none⟩ := by
  have hsign : signPart ((if negative then ['-'] else []) ++ digits) = (negative, digits) := by
    cases negative with
    | false => exact signPart_of_digits hdigits
    | true => rfl
  have hwhole : digits.takeWhile Char.isDigit = digits := by
    rw [← List.append_nil digits, List.takeWhile_append_of_pos hdigits]
    rfl
  have hrest : digits.dropWhile Char.isDigit = [] := by
    rw [← List.append_nil digits, List.dropWhile_append_of_pos hdigits]
    rfl
  have hlead : ¬ (digits = [] ∨ (digits.head? = some '0' ∧ digits ≠ ['0'])) := by
    rintro (h | ⟨h, h'⟩)
    · exact hne h
    · exact h' (hzero h)
  unfold ofChars?
  rw [hsign]
  dsimp only
  rw [hwhole, hrest, if_neg hlead]
  rfl

theorem legible_toDigits (negative : Bool) (n : Nat) :
    Legible ⟨negative, Nat.toDigits 10 n, none, none⟩ := by
  have hrender : render ⟨negative, Nat.toDigits 10 n, none, none⟩ =
      (if negative then ['-'] else []) ++ Nat.toDigits 10 n := by
    simp [render]
  refine ⟨?_, fun c hc => ?_, ?_⟩
  · rw [hrender]
    refine ofChars?_digits negative (fun c => isDigit_toDigits) Nat.toDigits_ne_nil fun h => ?_
    rw [eq_zero_of_head?_toDigits h, Nat.toDigits_zero]
  · rw [hrender, List.mem_append] at hc
    rcases hc with hc | hc
    · cases negative with
      | false => cases hc
      | true =>
        rw [List.mem_singleton.1 hc]
        rfl
    · simp [isNumeralChar, isDigit_toDigits hc]
  · rw [hrender]
    simp [Nat.toDigits_ne_nil]

theorem toInt?_ofNat (n : Nat) : (ofNat n).toInt? = some (n : Int) := by
  simp [toInt?, ofNat, digitsValue_toDigits]

theorem toInt?_ofInt (i : Int) : (ofInt i).toInt? = some i := by
  by_cases hneg : i < 0
  · have habs : i.natAbs ≠ 0 := by omega
    have hvalue : -(i.natAbs : Int) = i := by omega
    simp only [toInt?, ofInt, digitsValue_toDigits, hneg, habs, hvalue, Option.isNone_none,
      Bool.and_self, decide_true, if_true, if_false]
  · have hvalue : (i.natAbs : Int) = i := by omega
    simp [toInt?, ofInt, digitsValue_toDigits, hneg, hvalue]

end Numeral

/-! ## String literals -/

theorem hexValue?_hexDigit (n : Nat) : hexValue? (hexDigit n) = some (n % 16) := by
  have hdigits : ∀ d < 16, hexValue? (Nat.digitChar d) = some d := by decide
  exact hdigits (n % 16) (Nat.mod_lt n (by omega))

theorem textBody?_escapeChar (c : Char) (rest : List Char) :
    textBody? (escapeChar c ++ rest) = (textBody? rest).map (consChar c) := by
  unfold escapeChar
  split_ifs with h₁ h₂ h₃ h₄ h₅ h₆ h₇ hcontrol
  · subst h₁
    simp [textBody?, simpleEscape?]
  · subst h₂
    simp [textBody?, simpleEscape?]
  · subst h₃
    simp [textBody?, simpleEscape?]
  · subst h₄
    simp [textBody?, simpleEscape?]
  · subst h₅
    simp [textBody?, simpleEscape?]
  · subst h₆
    simp [textBody?, simpleEscape?]
  · subst h₇
    simp [textBody?, simpleEscape?]
  · have hzero : hexValue? '0' = some 0 := by decide
    have hunit : codeUnit? '0' '0' (hexDigit (c.toNat / 16)) (hexDigit c.toNat) =
        some c.toNat := by
      unfold codeUnit?
      rw [hzero, hexValue?_hexDigit, hexValue?_hexDigit]
      dsimp only
      congr 1
      omega
    have hlead : isLeadUnit c.toNat = false := by
      simp only [isLeadUnit, Bool.and_eq_false_iff, decide_eq_false_iff_not]
      omega
    have htrail : isTrailUnit c.toNat = false := by
      simp only [isTrailUnit, Bool.and_eq_false_iff, decide_eq_false_iff_not]
      omega
    simp [textBody?, hunit, hlead, htrail]
  · rw [List.singleton_append, textBody?]
    · rw [if_neg h₁, if_neg fun h => h.elim h₂ hcontrol]
    · exact fun _ _ _ _ _ h _ => h₂ h
    · exact fun _ _ h _ => h₂ h

theorem textBody?_escaped (s rest : List Char) :
    textBody? (s.flatMap escapeChar ++ '"' :: rest) = some (s, rest) := by
  induction s with
  | nil => simp [textBody?]
  | cons c s ih =>
    rw [List.flatMap_cons, List.append_assoc, textBody?_escapeChar, ih]
    rfl

/-! ## Tokens -/

theorem isNumeralChar_of_isSpace {c : Char} (h : isSpace c = true) : isNumeralChar c = false := by
  simp only [isSpace, Bool.or_eq_true, beq_iff_eq] at h
  rcases h with ((rfl | rfl) | rfl) | rfl <;> decide

namespace Token

/-- A numeral of the token reads as itself. -/
def Legible : Token → Prop
  | number n => n.Legible
  | _ => True

def isNumber : Token → Bool
  | number _ => true
  | _ => false

/-- Two numerals in a row would run together. -/
def Apart (t t' : Token) : Prop :=
  t.isNumber = false ∨ t'.isNumber = false

/-- No token starts with a space, and none but numerals starts as they do. -/
theorem exists_render_eq {t : Token} (h : t.Legible) :
    ∃ c cs, t.render = c :: cs ∧ isSpace c = false ∧ isNumeralChar c = t.isNumber := by
  cases t with
  | number n =>
    obtain ⟨_, hchars, hnonempty⟩ := h
    change ∃ c cs, n.render = c :: cs ∧ isSpace c = false ∧ isNumeralChar c = true
    cases hrender : n.render with
    | nil => exact absurd hrender hnonempty
    | cons c cs =>
      have hc : isNumeralChar c = true := hchars c (hrender ▸ List.mem_cons_self)
      refine ⟨c, cs, rfl, ?_, hc⟩
      cases hspace : isSpace c with
      | false => rfl
      | true => exact absurd hc (by rw [isNumeralChar_of_isSpace hspace]; exact Bool.false_ne_true)
  | bool b => cases b <;> exact ⟨_, _, rfl, rfl, rfl⟩
  | openList => exact ⟨_, _, rfl, rfl, rfl⟩
  | closeList => exact ⟨_, _, rfl, rfl, rfl⟩
  | openObject => exact ⟨_, _, rfl, rfl, rfl⟩
  | closeObject => exact ⟨_, _, rfl, rfl, rfl⟩
  | comma => exact ⟨_, _, rfl, rfl, rfl⟩
  | colon => exact ⟨_, _, rfl, rfl, rfl⟩
  | null => exact ⟨_, _, rfl, rfl, rfl⟩
  | text s => exact ⟨_, _, rfl, rfl, rfl⟩

end Token

/-- A text that starts as numerals do is cut behind the last character of the numeral. -/
theorem nextToken?_of_numeral {c : Char} (hc : isNumeralChar c = true) (cs : List Char) :
    nextToken? (c :: cs) =
      (Numeral.ofChars? ((c :: cs).takeWhile isNumeralChar)).map fun n =>
        (.number n, (c :: cs).dropWhile isNumeralChar) := by
  unfold nextToken?
  split
  case h_11 => rfl
  all_goals
    rename_i heq
    cases heq
    exact absurd hc (by decide)

/-- A token is read back from its spelling, if what follows a numeral does not prolong it. -/
theorem nextToken?_render {t : Token} (h : t.Legible) {rest : List Char}
    (hrest : t.isNumber = true → ∀ c ∈ rest.head?, isNumeralChar c = false) :
    nextToken? (t.render ++ rest) = some (t, rest) := by
  cases t with
  | number n =>
    obtain ⟨hreads, hchars, hnonempty⟩ := h
    have htake : rest.takeWhile isNumeralChar = [] := by
      cases rest with
      | nil => rfl
      | cons c rest => simp [hrest rfl c rfl]
    have hdrop : rest.dropWhile isNumeralChar = rest := by
      cases rest with
      | nil => rfl
      | cons c rest => simp [hrest rfl c rfl]
    have hnext : nextToken? (n.render ++ rest) =
        (Numeral.ofChars? ((n.render ++ rest).takeWhile isNumeralChar)).map fun n' =>
          (.number n', (n.render ++ rest).dropWhile isNumeralChar) := by
      cases hrender : n.render with
      | nil => exact absurd hrender hnonempty
      | cons c cs => exact nextToken?_of_numeral (hchars c (hrender ▸ List.mem_cons_self)) _
    rw [Token.render, hnext, List.takeWhile_append_of_pos hchars,
      List.dropWhile_append_of_pos hchars, htake, hdrop, List.append_nil, hreads]
    rfl
  | text s =>
    have hbody := textBody?_escaped s rest
    simp only [Token.render, List.cons_append, List.append_assoc, List.nil_append]
    rw [nextToken?, hbody]
    rfl
  | bool b => cases b <;> rfl
  | openList => rfl
  | closeList => rfl
  | openObject => rfl
  | closeObject => rfl
  | comma => rfl
  | colon => rfl
  | null => rfl

theorem head?_flatMap_render {ts : List Token} (hlegible : ∀ t ∈ ts, t.Legible)
    (hnumber : ∀ t ∈ ts.head?, t.isNumber = false) :
    ∀ c ∈ (ts.flatMap Token.render).head?, isNumeralChar c = false := by
  cases ts with
  | nil => exact fun c hc => nomatch hc
  | cons t ts =>
    obtain ⟨c, cs, hrender, _, hc⟩ := Token.exists_render_eq (hlegible t List.mem_cons_self)
    intro c' hc'
    rw [List.flatMap_cons, hrender, List.cons_append, List.head?_cons, Option.mem_some_iff] at hc'
    rw [← hc', hc]
    exact hnumber t rfl

/-- Tokens without two numerals in a row are read back from their spellings. -/
theorem tokensWithin_render {ts : List Token} (hlegible : ∀ t ∈ ts, t.Legible)
    (hapart : ts.IsChain Token.Apart) {n : Nat} (hn : ts.length ≤ n) :
    tokensWithin n (ts.flatMap Token.render) = some ts := by
  induction ts generalizing n with
  | nil => cases n <;> rfl
  | cons t ts ih =>
    cases n with
    | zero => exact absurd hn (Nat.not_succ_le_zero _)
    | succ n =>
      have hlegibles : ∀ t ∈ ts, t.Legible := fun t' ht' => hlegible t' (List.mem_cons_of_mem t ht')
      have hnext : nextToken? (t.render ++ ts.flatMap Token.render) =
          some (t, ts.flatMap Token.render) := by
        refine nextToken?_render (hlegible t List.mem_cons_self) fun hnumber => ?_
        refine head?_flatMap_render hlegibles fun t' ht' => ?_
        cases ts with
        | nil => cases ht'
        | cons t'' ts =>
          cases ht'
          rcases (List.isChain_cons_cons.1 hapart).1 with h | h
          · rw [hnumber] at h
            cases h
          · exact h
      obtain ⟨c, cs, hrender, hspace, _⟩ :=
        Token.exists_render_eq (hlegible t List.mem_cons_self)
      rw [List.flatMap_cons]
      rw [hrender, List.cons_append] at hnext ⊢
      unfold tokensWithin
      rw [List.dropWhile_cons_of_neg (by simp [hspace])]
      dsimp only
      rw [hnext, Option.bind_some, ih hlegibles hapart.tail (by simpa using hn)]
      rfl

theorem length_le_flatMap_render {ts : List Token} (hlegible : ∀ t ∈ ts, t.Legible) :
    ts.length ≤ (ts.flatMap Token.render).length := by
  induction ts with
  | nil => exact Nat.le_refl 0
  | cons t ts ih =>
    obtain ⟨c, cs, hrender, _, _⟩ := Token.exists_render_eq (hlegible t List.mem_cons_self)
    have hrest := ih fun t' ht' => hlegible t' (List.mem_cons_of_mem t ht')
    rw [List.flatMap_cons, hrender, List.length_append, List.length_cons, List.length_cons]
    omega

theorem tokens?_render {ts : List Token} (hlegible : ∀ t ∈ ts, t.Legible)
    (hapart : ts.IsChain Token.Apart) : tokens? (ts.flatMap Token.render) = some ts :=
  tokensWithin_render hlegible hapart (length_le_flatMap_render hlegible)

/-! ## Trees -/

mutual

/-- The brackets of a document that are open inside each other. -/
def nesting : Json → Nat
  | list items => itemsNesting items + 1
  | object members => membersNesting members + 1
  | _ => 0

def itemsNesting : List Json → Nat
  | [] => 0
  | item :: rest => max (nesting item) (itemsNesting rest)

def membersNesting : List (String × Json) → Nat
  | [] => 0
  | m :: rest => max (nesting m.2) (membersNesting rest)

end

/-- Every numeral of the document reads as itself. -/
def Legible (j : Json) : Prop :=
  ∀ t ∈ j.tokens, t.Legible

theorem legible_itemTokens {items : List Json} (h : ∀ item ∈ items, item.Legible) :
    ∀ t ∈ itemTokens items, t.Legible := by
  induction items with
  | nil => exact List.forall_mem_singleton.2 trivial
  | cons item rest ih =>
    obtain ⟨hitem, hrest⟩ := List.forall_mem_cons.1 h
    exact List.forall_mem_append.2 ⟨List.forall_mem_cons.2 ⟨trivial, hitem⟩, ih hrest⟩

theorem legible_list {items : List Json} (h : ∀ item ∈ items, item.Legible) :
    (list items).Legible := by
  cases items with
  | nil => simp [Legible, tokens, Token.Legible]
  | cons item rest =>
    obtain ⟨hitem, hrest⟩ := List.forall_mem_cons.1 h
    exact List.forall_mem_append.2
      ⟨List.forall_mem_cons.2 ⟨trivial, hitem⟩, legible_itemTokens hrest⟩

/-- A member of an object behind the token that opens it. -/
theorem legible_cons_member {t : Token} (ht : t.Legible) {m : String × Json} (hm : m.2.Legible) :
    ∀ u ∈ t :: .text m.1.toList :: .colon :: m.2.tokens, u.Legible :=
  List.forall_mem_cons.2 ⟨ht, List.forall_mem_cons.2 ⟨trivial,
    List.forall_mem_cons.2 ⟨trivial, hm⟩⟩⟩

theorem legible_memberTokens {members : List (String × Json)} (h : ∀ m ∈ members, m.2.Legible) :
    ∀ t ∈ memberTokens members, t.Legible := by
  induction members with
  | nil => exact List.forall_mem_singleton.2 trivial
  | cons m rest ih =>
    obtain ⟨hvalue, hrest⟩ := List.forall_mem_cons.1 h
    have hfirst := legible_cons_member (t := .comma) trivial hvalue
    exact List.forall_mem_append.2 ⟨hfirst, ih hrest⟩

theorem legible_object {members : List (String × Json)} (h : ∀ m ∈ members, m.2.Legible) :
    (object members).Legible := by
  cases members with
  | nil => simp [Legible, tokens, Token.Legible]
  | cons m rest =>
    obtain ⟨hvalue, hrest⟩ := List.forall_mem_cons.1 h
    have hfirst := legible_cons_member (t := .openObject) trivial hvalue
    exact List.forall_mem_append.2 ⟨hfirst, legible_memberTokens hrest⟩

theorem isNumber_head_itemTokens (items : List Json) :
    ∀ t ∈ (itemTokens items).head?, t.isNumber = false := by
  cases items with
  | nil => exact fun t ht => Option.mem_some_iff.1 ht ▸ rfl
  | cons item rest => exact fun t ht => Option.mem_some_iff.1 ht ▸ rfl

theorem isNumber_head_memberTokens (members : List (String × Json)) :
    ∀ t ∈ (memberTokens members).head?, t.isNumber = false := by
  cases members with
  | nil => exact fun t ht => Option.mem_some_iff.1 ht ▸ rfl
  | cons m rest => exact fun t ht => Option.mem_some_iff.1 ht ▸ rfl

theorem apart_append {ts ts' : List Token} (h : ts.IsChain Token.Apart)
    (h' : ts'.IsChain Token.Apart) (hhead : ∀ t ∈ ts'.head?, t.isNumber = false) :
    (ts ++ ts').IsChain Token.Apart :=
  List.isChain_append.2 ⟨h, h', fun _ _ t ht => .inr (hhead t ht)⟩

theorem apart_cons {t : Token} (ht : t.isNumber = false) {ts : List Token}
    (h : ts.IsChain Token.Apart) : (t :: ts).IsChain Token.Apart :=
  List.isChain_cons.2 ⟨fun _ _ => .inl ht, h⟩

mutual

/-- No two numerals stand in a row in a document. -/
theorem apart_tokens (j : Json) : j.tokens.IsChain Token.Apart := by
  cases j with
  | list items =>
    cases items with
    | nil => exact apart_cons rfl (apart_cons rfl .nil)
    | cons item rest =>
      exact apart_append (apart_cons rfl (apart_tokens item)) (apart_itemTokens rest)
        (isNumber_head_itemTokens rest)
  | object members =>
    cases members with
    | nil => exact apart_cons rfl (apart_cons rfl .nil)
    | cons m rest =>
      exact apart_append (apart_cons rfl (apart_cons rfl (apart_cons rfl (apart_tokens m.2))))
        (apart_memberTokens rest) (isNumber_head_memberTokens rest)
  | _ => exact .singleton _

theorem apart_itemTokens (items : List Json) : (itemTokens items).IsChain Token.Apart := by
  cases items with
  | nil => exact .singleton _
  | cons item rest =>
    exact apart_append (apart_cons rfl (apart_tokens item)) (apart_itemTokens rest)
      (isNumber_head_itemTokens rest)

theorem apart_memberTokens (members : List (String × Json)) :
    (memberTokens members).IsChain Token.Apart := by
  cases members with
  | nil => exact .singleton _
  | cons m rest =>
    exact apart_append (apart_cons rfl (apart_cons rfl (apart_cons rfl (apart_tokens m.2))))
      (apart_memberTokens rest) (isNumber_head_memberTokens rest)

end

/-- No document starts with the end of a list. -/
theorem exists_tokens_eq (j : Json) : ∃ t ts, j.tokens = t :: ts ∧ t ≠ .closeList := by
  cases j with
  | list items => cases items <;> exact ⟨_, _, rfl, nofun⟩
  | object members => cases members <;> exact ⟨_, _, rfl, nofun⟩
  | _ => exact ⟨_, _, rfl, nofun⟩

theorem treeWithin_openList (n depth : Nat) {t : Token} (ht : t ≠ .closeList) (ts : List Token) :
    treeWithin (n + 1) (depth + 1) (.openList :: t :: ts) =
      (treeWithin n depth (t :: ts)).bind fun p =>
        (itemsWithin n depth p.2).map fun q => (list (p.1 :: q.1), q.2) := by
  rw [treeWithin]
  exact fun rest h => ht (List.cons.inj h).1

-- Every token takes one step at most, so that as many steps as there are tokens suffice.
mutual

theorem treeWithin_tokens (j : Json) {depth : Nat} (hdepth : j.nesting ≤ depth)
    (rest : List Token) {n : Nat} (hn : j.tokens.length ≤ n) :
    treeWithin n depth (j.tokens ++ rest) = some (j, rest) := by
  cases n with
  | zero =>
    obtain ⟨t, ts, htokens, _⟩ := j.exists_tokens_eq
    rw [htokens] at hn
    exact absurd hn (Nat.not_succ_le_zero _)
  | succ n =>
    cases j with
    | null => rfl
    | bool b => rfl
    | number m => rfl
    | text s => simp [tokens, treeWithin]
    | list items =>
      cases depth with
      | zero => exact absurd hdepth (Nat.not_succ_le_zero _)
      | succ depth =>
        cases items with
        | nil => rfl
        | cons item items =>
          obtain ⟨t, ts, htokens, ht⟩ := item.exists_tokens_eq
          rw [nesting, itemsNesting] at hdepth
          rw [tokens, List.length_append, List.length_cons] at hn
          have hitem : treeWithin n depth (item.tokens ++ (itemTokens items ++ rest)) =
              some (item, itemTokens items ++ rest) :=
            treeWithin_tokens item (by omega) _ (by omega)
          have hitems : itemsWithin n depth (itemTokens items ++ rest) = some (items, rest) :=
            itemsWithin_itemTokens items (by omega) rest (by omega)
          rw [htokens, List.cons_append] at hitem
          rw [tokens, htokens, List.append_assoc, List.cons_append, List.cons_append,
            treeWithin_openList n depth ht, hitem, Option.bind_some, hitems]
          rfl
    | object members =>
      cases depth with
      | zero => exact absurd hdepth (Nat.not_succ_le_zero _)
      | succ depth =>
        cases members with
        | nil => rfl
        | cons m members =>
          rw [nesting, membersNesting] at hdepth
          rw [tokens, List.length_append, List.length_cons, List.length_cons,
            List.length_cons] at hn
          have hvalue : treeWithin n depth (m.2.tokens ++ (memberTokens members ++ rest)) =
              some (m.2, memberTokens members ++ rest) :=
            treeWithin_tokens m.2 (by omega) _ (by omega)
          have hmembers : membersWithin n depth (memberTokens members ++ rest) =
              some (members, rest) :=
            membersWithin_memberTokens members (by omega) rest (by omega)
          rw [tokens, List.append_assoc, List.cons_append, List.cons_append, List.cons_append,
            treeWithin, hvalue, Option.bind_some, hmembers, String.ofList_toList]
          rfl

theorem itemsWithin_itemTokens (items : List Json) {depth : Nat}
    (hdepth : itemsNesting items ≤ depth) (rest : List Token) {n : Nat}
    (hn : (itemTokens items).length ≤ n) :
    itemsWithin n depth (itemTokens items ++ rest) = some (items, rest) := by
  cases n with
  | zero => cases items <;> exact absurd hn (Nat.not_succ_le_zero _)
  | succ n =>
    cases items with
    | nil => rfl
    | cons item items =>
      rw [itemsNesting] at hdepth
      rw [itemTokens, List.length_append, List.length_cons] at hn
      have hitem : treeWithin n depth (item.tokens ++ (itemTokens items ++ rest)) =
          some (item, itemTokens items ++ rest) :=
        treeWithin_tokens item (by omega) _ (by omega)
      have hitems : itemsWithin n depth (itemTokens items ++ rest) = some (items, rest) :=
        itemsWithin_itemTokens items (by omega) rest (by omega)
      rw [itemTokens, List.append_assoc, List.cons_append, itemsWithin, hitem, Option.bind_some,
        hitems]
      rfl

theorem membersWithin_memberTokens (members : List (String × Json)) {depth : Nat}
    (hdepth : membersNesting members ≤ depth) (rest : List Token) {n : Nat}
    (hn : (memberTokens members).length ≤ n) :
    membersWithin n depth (memberTokens members ++ rest) = some (members, rest) := by
  cases n with
  | zero => cases members <;> exact absurd hn (Nat.not_succ_le_zero _)
  | succ n =>
    cases members with
    | nil => rfl
    | cons m members =>
      rw [membersNesting] at hdepth
      rw [memberTokens, List.length_append, List.length_cons, List.length_cons,
        List.length_cons] at hn
      have hvalue : treeWithin n depth (m.2.tokens ++ (memberTokens members ++ rest)) =
          some (m.2, memberTokens members ++ rest) :=
        treeWithin_tokens m.2 (by omega) _ (by omega)
      have hmembers : membersWithin n depth (memberTokens members ++ rest) =
          some (members, rest) :=
        membersWithin_memberTokens members (by omega) rest (by omega)
      rw [memberTokens, List.append_assoc, List.cons_append, List.cons_append, List.cons_append,
        membersWithin, hvalue, Option.bind_some, hmembers, String.ofList_toList]
      rfl

end

/-- A document is read back from its text, unless it nests too deeply. -/
theorem parse?_render {j : Json} (hlegible : j.Legible) (hdepth : j.nesting ≤ maxDepth) :
    parse? j.render = some j := by
  have htokens : tokens? (j.tokens.flatMap Token.render) = some j.tokens :=
    tokens?_render hlegible j.apart_tokens
  have htree := treeWithin_tokens j hdepth [] (Nat.le_succ j.tokens.length)
  rw [List.append_nil] at htree
  rw [parse?, render, String.toList_ofList, htokens, Option.bind_some, htree]
  rfl

/-! ## Documents that nest too deeply -/

theorem treeWithin_openList_zero (n : Nat) (ts : List Token) :
    treeWithin (n + 1) 0 (.openList :: ts) = none := by
  cases ts with
  | nil => rfl
  | cons t ts => cases t <;> rfl

theorem treeWithin_openObject_zero (n : Nat) (ts : List Token) :
    treeWithin (n + 1) 0 (.openObject :: ts) = none := by
  rw [treeWithin] <;> simp

mutual

theorem treeWithin_of_deep (j : Json) {depth : Nat} (hdepth : depth < j.nesting)
    (rest : List Token) {n : Nat} (hn : j.tokens.length ≤ n) :
    treeWithin n depth (j.tokens ++ rest) = none := by
  cases n with
  | zero => rfl
  | succ n =>
    cases j with
    | list items =>
      cases depth with
      | zero => cases items <;> exact treeWithin_openList_zero n _
      | succ depth =>
        cases items with
        | nil => exact absurd hdepth (by simp [nesting, itemsNesting])
        | cons item items =>
          obtain ⟨t, ts, htokens, ht⟩ := item.exists_tokens_eq
          rw [nesting, itemsNesting] at hdepth
          rw [tokens, List.length_append, List.length_cons] at hn
          have hfails :
              ((treeWithin n depth (item.tokens ++ (itemTokens items ++ rest))).bind fun p =>
                (itemsWithin n depth p.2).map fun q => (list (p.1 :: q.1), q.2)) = none := by
            by_cases hitem : item.nesting ≤ depth
            · rw [treeWithin_tokens item hitem _ (by omega), Option.bind_some,
                itemsWithin_of_deep items (by omega) rest (by omega)]
              rfl
            · rw [treeWithin_of_deep item (by omega) _ (by omega)]
              rfl
          rw [htokens, List.cons_append] at hfails
          rw [tokens, htokens, List.append_assoc, List.cons_append, List.cons_append,
            treeWithin_openList n depth ht, hfails]
    | object members =>
      cases depth with
      | zero => cases members <;> exact treeWithin_openObject_zero n _
      | succ depth =>
        cases members with
        | nil => exact absurd hdepth (by simp [nesting, membersNesting])
        | cons m members =>
          rw [nesting, membersNesting] at hdepth
          rw [tokens, List.length_append, List.length_cons, List.length_cons,
            List.length_cons] at hn
          rw [tokens, List.append_assoc, List.cons_append, List.cons_append, List.cons_append,
            treeWithin]
          by_cases hvalue : m.2.nesting ≤ depth
          · rw [treeWithin_tokens m.2 hvalue _ (by omega), Option.bind_some,
              membersWithin_of_deep members (by omega) rest (by omega)]
            rfl
          · rw [treeWithin_of_deep m.2 (by omega) _ (by omega)]
            rfl
    | _ => exact absurd hdepth (Nat.not_lt_zero _)

theorem itemsWithin_of_deep (items : List Json) {depth : Nat} (hdepth : depth < itemsNesting items)
    (rest : List Token) {n : Nat} (hn : (itemTokens items).length ≤ n) :
    itemsWithin n depth (itemTokens items ++ rest) = none := by
  cases n with
  | zero => rfl
  | succ n =>
    cases items with
    | nil => exact absurd hdepth (Nat.not_lt_zero _)
    | cons item items =>
      rw [itemsNesting] at hdepth
      rw [itemTokens, List.length_append, List.length_cons] at hn
      rw [itemTokens, List.append_assoc, List.cons_append, itemsWithin]
      by_cases hitem : item.nesting ≤ depth
      · rw [treeWithin_tokens item hitem _ (by omega), Option.bind_some,
          itemsWithin_of_deep items (by omega) rest (by omega)]
        rfl
      · rw [treeWithin_of_deep item (by omega) _ (by omega)]
        rfl

theorem membersWithin_of_deep (members : List (String × Json)) {depth : Nat}
    (hdepth : depth < membersNesting members) (rest : List Token) {n : Nat}
    (hn : (memberTokens members).length ≤ n) :
    membersWithin n depth (memberTokens members ++ rest) = none := by
  cases n with
  | zero => rfl
  | succ n =>
    cases members with
    | nil => exact absurd hdepth (Nat.not_lt_zero _)
    | cons m members =>
      rw [membersNesting] at hdepth
      rw [memberTokens, List.length_append, List.length_cons, List.length_cons,
        List.length_cons] at hn
      rw [memberTokens, List.append_assoc, List.cons_append, List.cons_append, List.cons_append,
        membersWithin]
      by_cases hvalue : m.2.nesting ≤ depth
      · rw [treeWithin_tokens m.2 hvalue _ (by omega), Option.bind_some,
          membersWithin_of_deep members (by omega) rest (by omega)]
        rfl
      · rw [treeWithin_of_deep m.2 (by omega) _ (by omega)]
        rfl

end

/-- A document that nests too deeply is not read back from its text. -/
theorem parse?_render_of_deep {j : Json} (hlegible : j.Legible) (hdepth : maxDepth < j.nesting) :
    parse? j.render = none := by
  have htokens : tokens? (j.tokens.flatMap Token.render) = some j.tokens :=
    tokens?_render hlegible j.apart_tokens
  have htree := treeWithin_of_deep j hdepth [] (Nat.le_succ j.tokens.length)
  rw [List.append_nil] at htree
  rw [parse?, render, String.toList_ofList, htokens, Option.bind_some, htree]
  rfl

end DataMapper.Json
