/-!
# TOML texts

A text is written in one of four styles: between single or triple quotes, and between double quotes,
where a backslash starts an escape, or between apostrophes, where every character stands for itself.
The writer takes the plainest style that can hold a text. The readers take a text off the front of
the characters that are left and accept every spelling of it.
-/

namespace Tabular.Toml

/-- A character that may stand for itself in a text or in a comment. -/
def isPlain (c : Char) : Bool := c == '\t' || 0x20 ≤ c.toNat && c.toNat != 0x7F

/-- The character that encloses texts without escapes. -/
def apostrophe : Char := Char.ofNat 39

/-! ## Writing -/

/-- The styles of a text. -/
inductive TextStyle
  | basic
  | literal
  | basicLines
  | literalLines
deriving Repr, DecidableEq

/-- The length of the longest run of a character. -/
def longestRun (quote : Char) (cs : List Char) : Nat :=
  let (run, longest) := cs.foldr
    (fun c (run, longest) => if c = quote then (run + 1, max longest (run + 1)) else (0, longest))
    (0, 0)
  max run longest

/-- The style in which a text is written: the first that holds it without escapes, or one with
escapes. -/
def TextStyle.of (cs : List Char) : TextStyle :=
  let lines := cs.contains '\n'
  let controls := cs.any fun c => !isPlain c && c != '\n'
  let backslash := cs.contains '\\'
  let quotes := longestRun '"' cs
  let apostrophes := longestRun apostrophe cs
  if !controls && !backslash && quotes == 0 && !lines then basic
  else if !controls && apostrophes == 0 && !lines then literal
  else if !controls && !backslash && quotes ≤ 2 then basicLines
  else if !controls && apostrophes ≤ 2 then literalLines
  else if lines then basicLines
  else basic

/-- A capital hexadecimal digit. -/
def hexDigit (n : Nat) : Char := (Nat.digitChar n).toUpper

/-- A character between double quotes, other than a quote. -/
def escape (c : Char) : List Char :=
  if c = '\\' then ['\\', '\\']
  else if c = '\t' then ['\\', 't']
  else if c = '\n' then ['\\', 'n']
  else if c = '\r' then ['\\', 'r']
  else if c.toNat = 8 then ['\\', 'b']
  else if c.toNat = 12 then ['\\', 'f']
  else if isPlain c then [c]
  else ['\\', 'u', '0', '0', hexDigit (c.toNat / 16), hexDigit (c.toNat % 16)]

/-- The inside of a text between double quotes, behind so many quotes that stand for themselves.
Over several lines a line feed stands for itself, and so do two quotes in a row. -/
def writeBasic (multiline : Bool) (run : Nat) : List Char → List Char
  | [] => []
  | c :: cs =>
    if c = '"' then
      if multiline && run < 2 then '"' :: writeBasic multiline (run + 1) cs
      else '\\' :: '"' :: writeBasic multiline 0 cs
    else if multiline && c = '\n' then '\n' :: writeBasic multiline 0 cs
    else escape c ++ writeBasic multiline 0 cs

/-- A text in a style. Triple quotes are followed by a line feed if the text has one. -/
def writeStyled (style : TextStyle) (cs : List Char) : List Char :=
  let start := if cs.contains '\n' then ['\n'] else []
  let enclose (quote : List Char) (inside : List Char) := quote ++ inside ++ quote
  match style with
  | .basic => enclose ['"'] (writeBasic false 0 cs)
  | .literal => enclose [apostrophe] cs
  | .basicLines => enclose ['"', '"', '"'] (start ++ writeBasic true 0 cs)
  | .literalLines => enclose [apostrophe, apostrophe, apostrophe] (start ++ cs)

/-- A text as it is written. -/
def writeText (cs : List Char) : List Char := writeStyled (.of cs) cs

/-! ## Reading -/

/-- What is open inside a text between double quotes. -/
inductive Pending
  /-- Nothing but the text. -/
  | text
  /-- A backslash has been read. -/
  | escape
  /-- So many digits of a code point are missing, and those read have this value. -/
  | code (missing value : Nat)
  /-- A backslash and blanks have been read, so the line must end. -/
  | lineEnd
  /-- A line has ended behind a backslash, so blanks and line ends do not count. -/
  | indent

/-- The character that a letter stands for behind a backslash. -/
def unescape? (c : Char) : Option Char :=
  if c = '"' ∨ c = '\\' then some c
  else if c = 't' then some '\t'
  else if c = 'n' then some '\n'
  else if c = 'r' then some '\r'
  else if c = 'b' then some (Char.ofNat 8)
  else if c = 'f' then some (Char.ofNat 12)
  else none

/-- The value of a hexadecimal digit. -/
def hexValue? (c : Char) : Option Nat :=
  if c.isDigit then some (c.toNat - '0'.toNat)
  else if 'a' ≤ c ∧ c ≤ 'f' then some (c.toNat - 'a'.toNat + 10)
  else if 'A' ≤ c ∧ c ≤ 'F' then some (c.toNat - 'A'.toNat + 10)
  else none

/-- Puts a character in front of a text that has been read. -/
def consText (c : Char) : List Char × List Char → List Char × List Char
  | (text, rest) => (c :: text, rest)

/-- The rest of a run of quotes that closes a text over several lines, behind its first quote. Of a
run of four or five quotes, those in front of the last three belong to the text. -/
def closing? (quote : Char) (cs : List Char) : Option (List Char × List Char) :=
  let run := (cs.takeWhile (· == quote)).length
  if run < 2 then none
  else
    let extra := min run 4 - 2
    some (List.replicate extra quote, cs.drop (2 + extra))

/-- Whether a character and those behind it start with a line end of two characters. -/
def isReturn (c : Char) (cs : List Char) : Bool := c == '\r' && cs.head? == some '\n'

/-- Reads a text between double quotes, behind the opening ones. A line end of two characters is
read as its second character. -/
def readBasic (multiline : Bool) : Pending → List Char → Option (List Char × List Char)
  | _, [] => none
  | .text, c :: cs =>
    if c = '"' then
      if multiline then
        (closing? '"' cs).or ((readBasic multiline .text cs).map (consText '"'))
      else some ([], cs)
    else if c = '\\' then readBasic multiline .escape cs
    else if isPlain c || multiline && c = '\n' then
      (readBasic multiline .text cs).map (consText c)
    else if multiline && isReturn c cs then readBasic multiline .text cs
    else none
  | .escape, c :: cs =>
    match unescape? c with
    | some d => (readBasic multiline .text cs).map (consText d)
    | none =>
      if c = 'u' then readBasic multiline (.code 4 0) cs
      else if c = 'U' then readBasic multiline (.code 8 0) cs
      else if !multiline then none
      else if c = ' ' ∨ c = '\t' then readBasic multiline .lineEnd cs
      else if c = '\n' then readBasic multiline .indent cs
      else if isReturn c cs then readBasic multiline .lineEnd cs
      else none
  | .code missing value, c :: cs =>
    match hexValue? c with
    | none => none
    | some digit =>
      let value := 16 * value + digit
      if missing ≤ 1 then
        if value.isValidChar then (readBasic multiline .text cs).map (consText (Char.ofNat value))
        else none
      else readBasic multiline (.code (missing - 1) value) cs
  | .lineEnd, c :: cs =>
    if c = ' ' ∨ c = '\t' ∨ isReturn c cs then readBasic multiline .lineEnd cs
    else if c = '\n' then readBasic multiline .indent cs
    else none
  | .indent, c :: cs =>
    if c = ' ' ∨ c = '\t' ∨ c = '\n' ∨ isReturn c cs then readBasic multiline .indent cs
    else if c = '"' then
      (closing? '"' cs).or ((readBasic multiline .text cs).map (consText '"'))
    else if c = '\\' then readBasic multiline .escape cs
    else if isPlain c then (readBasic multiline .text cs).map (consText c)
    else none

/-- Reads a text between apostrophes, behind the opening one. -/
def readLiteral (cs : List Char) : Option (List Char × List Char) :=
  match cs.span fun c => isPlain c && c != apostrophe with
  | (text, c :: rest) => if c = apostrophe then some (text, rest) else none
  | (_, []) => none

/-- Reads a text between triple apostrophes, behind the opening ones. -/
def readLiteralLines : List Char → Option (List Char × List Char)
  | [] => none
  | c :: cs =>
    if c = apostrophe then
      (closing? apostrophe cs).or ((readLiteralLines cs).map (consText c))
    else if isPlain c ∨ c = '\n' then (readLiteralLines cs).map (consText c)
    else if isReturn c cs then readLiteralLines cs
    else none

/-- Leaves out a line end at the start of a text over several lines. -/
def dropLineEnd : List Char → List Char
  | '\n' :: rest => rest
  | '\r' :: '\n' :: rest => rest
  | cs => cs

/-- Reads a text on one line, in either style. -/
def readLineText : List Char → Option (List Char × List Char)
  | [] => none
  | c :: rest =>
    if c = '"' then readBasic false .text rest
    else if c = apostrophe then readLiteral rest
    else none

/-- Reads a text in any style. -/
def readText : List Char → Option (List Char × List Char)
  | a :: b :: c :: rest =>
    if [a, b, c] = ['"', '"', '"'] then readBasic true .text (dropLineEnd rest)
    else if [a, b, c] = [apostrophe, apostrophe, apostrophe] then
      readLiteralLines (dropLineEnd rest)
    else readLineText (a :: b :: c :: rest)
  | cs => readLineText cs

end Tabular.Toml
