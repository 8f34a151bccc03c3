import Tabular.Binary64
import Tabular.Size
import Tabular.Text.Blank
import Tabular.Text.Bytes
import Tabular.Toml.Text

/-!
# Values of environment variables

The value of a variable is read as a truth value, a number, a text in quotes, a list or a table if
it looks like one, and as a plain text otherwise. What does not fit together is a plain text as a
whole. In a text in quotes with an escape, as many bytes count of the part in front of the first
escape as that part has characters, so the rest of that part is lost when not all of its characters
are ASCII.
-/

namespace Tabular.Config

/-- A value of a variable. -/
inductive VariableValue
  | text (s : String)
  | signed (n : Int)
  | unsigned (n : Nat)
  | float (x : Binary64)
  | bool (b : Bool)
  | list (items : List VariableValue)
  | table (entries : List (String × VariableValue))

namespace VariableValue

/-- A blank of the ASCII characters. -/
def isBlank (c : Char) : Bool :=
  c == ' ' || c == '\t' || c == '\n' || c == '\r' || c.toNat == 12

/-- Ends a value without quotes. -/
def isSeparator (c : Char) : Bool :=
  c == ',' || c == '[' || c == ']' || c == '{' || c == '}'

/-- A character of a name in a table. -/
def isNameChar (c : Char) : Bool := c.isAlphanum || c == '_' || c == '-'

/-- The characters without the blanks at their start. -/
def skipBlanks (cs : List Char) : List Char := cs.dropWhile isBlank

/-- Reads an integer of 64 bits below zero. -/
def negative? (s : String) : Option Int :=
  match s.toList with
  | '-' :: digits =>
    let n := Nat.ofDigitChars 10 digits 0
    if !digits.isEmpty && digits.all Char.isDigit && n ≤ 0x8000000000000000 then some (-n) else none
  | _ => none

/-- The value of a word: a float if it has a point, an integer, or a text. -/
def ofWord (word : String) : VariableValue :=
  let number? := if word.contains '.' then Decimal.ofChars? word.toList else none
  match number?, Size.ofText? word, negative? word with
  | some number, _, _ => float (.ofDecimal number)
  | none, some n, _ => unsigned n
  | none, none, some n => signed n
  | none, none, none => text word

/-- Reads a value without quotes or brackets. -/
def readWord (cs : List Char) : VariableValue × List Char :=
  let (word, rest) := cs.span fun c => !isSeparator c
  (ofWord (Text.trim (.ofList word)), rest)

/-- Why a value cannot be read. -/
inductive Unread
  /-- The value does not fit together. -/
  | unfit
  /-- A text in quotes is cut inside a character. -/
  | cut (cut : Text.Cut)
deriving Repr, DecidableEq

/-- Reads something off the front of the characters that are left. -/
abbrev Reader (α : Type) := List Char → Except Unread (α × List Char)

/-- The inside of a text in quotes, behind the opening one, and what is behind the closing one. A
backslash keeps the character behind it from closing the text. -/
def closeQuote : List Char → Option (List Char × List Char)
  | [] => none
  | '"' :: rest => some ([], rest)
  | '\\' :: c :: rest => (closeQuote rest).map fun (inside, rest) => ('\\' :: c :: inside, rest)
  | c :: rest => (closeQuote rest).map fun (inside, rest) => (c :: inside, rest)

/-- The text that the inside of a text in quotes stands for. -/
def unescape (inside : List Char) : Except Unread (List Char) := do
  let front := inside.takeWhile (· != '\\')
  if !front.all Toml.isPlain then throw .unfit
  match inside.dropWhile (· != '\\') with
  | [] => return front
  | escapes =>
    let kept ← (Text.takeBytes front.length inside).mapError .cut
    match Toml.readBasic false .text (escapes ++ ['"']) with
    | some (unescaped, []) => return kept ++ unescaped
    | _ => throw .unfit

/-- Reads a text in quotes, behind the opening one. -/
def readQuoted : Reader String := fun cs =>
  match closeQuote cs with
  | some (inside, rest) => (unescape inside).map fun inside => (.ofList inside, rest)
  | none => .error .unfit

/-- Reads items up to a closing character, with commas between them and perhaps behind the last. -/
def readItems (close : Char) (readItem : Reader α) (cs : List Char) :
    Except Unread (List α × List Char) :=
  match cs with
  | [] => .error .unfit
  | c :: tail =>
    if c = close then .ok ([], tail)
    else do
      let (item, rest) ← readItem (c :: tail)
      match rest with
      | ',' :: rest =>
        if rest.length ≤ tail.length then
          (readItems close readItem rest).map fun (items, rest) => (item :: items, rest)
        else .error .unfit
      | c :: rest => if c = close then .ok ([item], rest) else .error .unfit
      | [] => .error .unfit
termination_by cs.length

/-- Reads a name in a table. -/
def readName : Reader String
  | '"' :: cs => readQuoted cs
  | cs =>
    match cs.span isNameChar with
    | ([], _) => .error .unfit
    | (name, rest) => .ok (.ofList name, rest)

/-- Reads a name and its value, with an equals sign between them. -/
def readEntry (readItem : Reader VariableValue) : Reader (String × VariableValue) := fun cs => do
  let (name, rest) ← readName (skipBlanks cs)
  match skipBlanks rest with
  | '=' :: rest =>
    let (value, rest) ← readItem rest
    return ((name, value), rest)
  | _ => .error .unfit

/-- Takes a word off the front. -/
def readExact (word cs : List Char) : Option (List Char) :=
  if word.isPrefixOf cs then some (cs.drop word.length) else none

/-- Reads a value with at most so many lists and tables inside each other, and the blanks around
it. -/
def readNested : Nat → Reader VariableValue
  | nesting, cs =>
    let start := skipBlanks cs
    match readExact "true".toList start, readExact "false".toList start with
    | some rest, _ => .ok (bool true, skipBlanks rest)
    | none, some rest => .ok (bool false, skipBlanks rest)
    | none, none =>
      match start, nesting with
      | '{' :: rest, nesting + 1 =>
        (readItems '}' (readEntry (readNested nesting)) rest).map fun (entries, rest) =>
          (table entries, skipBlanks rest)
      | '[' :: rest, nesting + 1 =>
        (readItems ']' (readNested nesting) rest).map fun (items, rest) =>
          (list items, skipBlanks rest)
      | '"' :: rest, _ => (readQuoted rest).map fun (s, rest) => (text s, skipBlanks rest)
      | '\'' :: rest, _ =>
        match rest with
        | c :: '\'' :: rest => .ok (text c.toString, skipBlanks rest)
        | _ => .error .unfit
      | _, _ =>
        let (value, rest) := readWord start
        .ok (value, skipBlanks rest)

/-- The value of a variable. What cannot be read as a whole is a text. -/
def ofText (s : String) : Except Text.Cut VariableValue :=
  match readNested (s.length + 1) s.toList with
  | .ok (value, []) => .ok value
  | .ok _ | .error .unfit => .ok (text s)
  | .error (.cut cut) => .error cut

end VariableValue

end Tabular.Config
