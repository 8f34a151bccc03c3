/-!
# JSON text

A JSON document of counts, texts, lists and records, and its text with one item per line and two
spaces of indentation for each level. Only quotes, backslashes and controls are escaped.
-/

namespace Tabular

/-- A JSON document. -/
inductive Json
  | null
  | count (n : Nat)
  | text (s : String)
  | list (items : List Json)
  /-- Fields are written in the order in which they are given. -/
  | record (fields : List (String × Json))

namespace Json

/-- The two hexadecimal digits of a control character. -/
def controlDigits (c : Char) : String :=
  .ofList [Nat.digitChar (c.toNat / 16), Nat.digitChar (c.toNat % 16)]

/-- A character inside a quoted text. -/
def escape (c : Char) : String :=
  if c = '"' then "\\\""
  else if c = '\\' then "\\\\"
  else if c = '\n' then "\\n"
  else if c = '\r' then "\\r"
  else if c = '\t' then "\\t"
  else if c.toNat = 8 then "\\b"
  else if c.toNat = 12 then "\\f"
  else if c.toNat < 32 then "\\u00" ++ controlDigits c
  else c.toString

/-- A text in quotes. -/
def quote (s : String) : String := "\"" ++ String.join (s.toList.map escape) ++ "\""

/-- The line break before an item of the given level. -/
def newline (level : Nat) : String := "\n" ++ String.ofList (List.replicate (2 * level) ' ')

/-- Items between brackets, each on a line of the next level. There are no lines without items. -/
def enclose (left right : String) (level : Nat) (items : List String) : String :=
  if items.isEmpty then left ++ right
  else left ++ newline (level + 1) ++ String.intercalate ("," ++ newline (level + 1)) items ++
    newline level ++ right

mutual

/-- The text of a document whose first line stands on the given level. -/
def prettyAt (level : Nat) : Json → String
  | null => "null"
  | count n => toString n
  | text s => quote s
  | list items => enclose "[" "]" level (prettyItems (level + 1) items)
  | record fields => enclose "\x7b" "\x7d" level (prettyFields (level + 1) fields)

/-- The texts of the items of a list. -/
def prettyItems (level : Nat) : List Json → List String
  | [] => []
  | item :: items => prettyAt level item :: prettyItems level items

/-- The texts of the fields of a record. -/
def prettyFields (level : Nat) : List (String × Json) → List String
  | [] => []
  | (key, value) :: fields => (quote key ++ ": " ++ prettyAt level value) :: prettyFields level fields

end

/-- The text of a document. -/
def pretty (document : Json) : String := prettyAt 0 document

/-- A document that may be missing. -/
def ofOption (f : α → Json) : Option α → Json
  | none => null
  | some a => f a

end Json

end Tabular
