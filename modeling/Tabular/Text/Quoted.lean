import Tabular.Text.QuotedTable

/-!
# Quoted text

A text between double quotes, with every character written so that a reader can see it: quotes,
backslashes and the common controls by an escape of one letter, and other characters without a
printed form by their code point.
-/

namespace Tabular.Text

/-- The escape of a character by its code point, in hexadecimal between braces. -/
def codeEscape (c : Char) : String :=
  "\\u\x7b" ++ String.ofList (Nat.toDigits 16 c.toNat) ++ "\x7d"

/-- A character inside a quoted text. -/
def escape (c : Char) : String :=
  if c = '"' then "\\\""
  else if c = '\\' then "\\\\"
  else if c = '\n' then "\\n"
  else if c = '\r' then "\\r"
  else if c = '\t' then "\\t"
  else if c.toNat = 0 then "\\0"
  else if CodeRanges.contains combining c || CodeRanges.contains unprinted c then codeEscape c
  else c.toString

/-- A text in quotes. -/
def quoted (s : String) : String := "\"" ++ String.join (s.toList.map escape) ++ "\""

end Tabular.Text
