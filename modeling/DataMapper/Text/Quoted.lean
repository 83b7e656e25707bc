import DataMapper.Text.Hidden
/-!
# Quoted text

A string between double quotes, in which quotes, backslashes and characters without a printed form
are escaped. Single quotes stand as they are.
-/

namespace DataMapper.Text

/-- Lower-case hexadecimal digits without leading zeros. -/
def hexDigits (n : Nat) : String :=
  String.ofList (Nat.toDigits 16 n)

def quotedChar (c : Char) : String :=
  if c = '"' then "\\\""
  else if c = '\\' then "\\\\"
  else if c = '\n' then "\\n"
  else if c = '\r' then "\\r"
  else if c = '\t' then "\\t"
  else if c = '\x00' then "\\0"
  else if isHidden c then "\\u\x7b" ++ hexDigits c.toNat ++ "\x7d"
  else c.toString

def quoted (s : String) : String :=
  "\"" ++ String.join (s.toList.map quotedChar) ++ "\""

end DataMapper.Text
