import DataMapper.Json.Numeral
/-!
# JSON tokens

The words of JSON text, their spelling, and the cutting of a text into words. In a string only
quotes, backslashes and control characters are escaped.
-/

namespace DataMapper.Json

inductive Token where
  | openList
  | closeList
  | openObject
  | closeObject
  | comma
  | colon
  | null
  | bool (b : Bool)
  | number (n : Numeral)
  | text (s : List Char)
  deriving DecidableEq, Repr

def hexDigit (n : Nat) : Char :=
  Nat.digitChar (n % 16)

/-- A character inside a string literal. -/
def escapeChar (c : Char) : List Char :=
  if c = '"' then ['\\', '"']
  else if c = '\\' then ['\\', '\\']
  else if c = '\x08' then ['\\', 'b']
  else if c = '\x0c' then ['\\', 'f']
  else if c = '\n' then ['\\', 'n']
  else if c = '\r' then ['\\', 'r']
  else if c = '\t' then ['\\', 't']
  else if c.toNat < 0x20 then
    ['\\', 'u', '0', '0', hexDigit (c.toNat / 16), hexDigit c.toNat]
  else [c]

def Token.render : Token → List Char
  | openList => ['[']
  | closeList => [']']
  | openObject => ['\x7b']
  | closeObject => ['\x7d']
  | comma => [',']
  | colon => [':']
  | null => ['n', 'u', 'l', 'l']
  | bool true => ['t', 'r', 'u', 'e']
  | bool false => ['f', 'a', 'l', 's', 'e']
  | number n => n.render
  | text s => '"' :: s.flatMap escapeChar ++ ['"']

def hexValue? (c : Char) : Option Nat :=
  if '0' ≤ c ∧ c ≤ '9' then some (c.toNat - '0'.toNat)
  else if 'a' ≤ c ∧ c ≤ 'f' then some (c.toNat - 'a'.toNat + 10)
  else if 'A' ≤ c ∧ c ≤ 'F' then some (c.toNat - 'A'.toNat + 10)
  else none

/-- A code unit from its four hexadecimal digits. -/
def codeUnit? (a b c d : Char) : Option Nat :=
  match hexValue? a, hexValue? b, hexValue? c, hexValue? d with
  | some a, some b, some c, some d => some (((a * 16 + b) * 16 + c) * 16 + d)
  | _, _, _, _ => none

/-- The character of a one-letter escape. -/
def simpleEscape? (c : Char) : Option Char :=
  if c = '"' ∨ c = '\\' ∨ c = '/' then some c
  else if c = 'b' then some '\x08'
  else if c = 'f' then some '\x0c'
  else if c = 'n' then some '\n'
  else if c = 'r' then some '\r'
  else if c = 't' then some '\t'
  else none

def isLeadUnit (n : Nat) : Bool :=
  0xd800 ≤ n && n ≤ 0xdbff

def isTrailUnit (n : Nat) : Bool :=
  0xdc00 ≤ n && n ≤ 0xdfff

def consChar (c : Char) (p : List Char × List Char) : List Char × List Char :=
  (c :: p.1, p.2)

/-- The body of a string literal up to its closing quote, and what follows. A lead unit has to be
followed by a trail unit, and neither stands alone. -/
def textBody? : List Char → Option (List Char × List Char)
  | [] => none
  | '\\' :: 'u' :: a :: b :: c :: d :: rest =>
    match codeUnit? a b c d with
    | none => none
    | some n =>
      if isLeadUnit n then
        match rest with
        | '\\' :: 'u' :: e :: f :: g :: h :: rest =>
          match codeUnit? e f g h with
          | none => none
          | some m =>
            if isTrailUnit m then
              (textBody? rest).map
                (consChar (Char.ofNat (0x10000 + (n - 0xd800) * 0x400 + (m - 0xdc00))))
            else none
        | _ => none
      else if isTrailUnit n then none
      else (textBody? rest).map (consChar (Char.ofNat n))
  | '\\' :: c :: rest =>
    match simpleEscape? c with
    | none => none
    | some e => (textBody? rest).map (consChar e)
  | c :: rest =>
    if c = '"' then some ([], rest)
    else if c = '\\' ∨ c.toNat < 0x20 then none
    else (textBody? rest).map (consChar c)

def isSpace (c : Char) : Bool :=
  c == ' ' || c == '\n' || c == '\t' || c == '\r'

def isNumeralChar (c : Char) : Bool :=
  c.isDigit || c == '-' || c == '+' || c == '.' || c == 'e' || c == 'E'

/-- The token at the front of a text that does not start with a space, and what follows. -/
def nextToken? : List Char → Option (Token × List Char)
  | '[' :: rest => some (.openList, rest)
  | ']' :: rest => some (.closeList, rest)
  | '\x7b' :: rest => some (.openObject, rest)
  | '\x7d' :: rest => some (.closeObject, rest)
  | ',' :: rest => some (.comma, rest)
  | ':' :: rest => some (.colon, rest)
  | 'n' :: 'u' :: 'l' :: 'l' :: rest => some (.null, rest)
  | 't' :: 'r' :: 'u' :: 'e' :: rest => some (.bool true, rest)
  | 'f' :: 'a' :: 'l' :: 's' :: 'e' :: rest => some (.bool false, rest)
  | '"' :: rest => (textBody? rest).map fun p => (.text p.1, p.2)
  | cs =>
    (Numeral.ofChars? (cs.takeWhile isNumeralChar)).map fun n =>
      (.number n, cs.dropWhile isNumeralChar)

/-- Cuts a text into tokens. The first argument bounds their number. -/
def tokensWithin : Nat → List Char → Option (List Token)
  | n, cs =>
    match n, cs.dropWhile isSpace with
    | _, [] => some []
    | 0, _ :: _ => none
    | n + 1, c :: rest =>
      (nextToken? (c :: rest)).bind fun p => (tokensWithin n p.2).map (p.1 :: ·)

/-- The tokens of a text. Each takes a character at least. -/
def tokens? (cs : List Char) : Option (List Token) :=
  tokensWithin cs.length cs

end DataMapper.Json
