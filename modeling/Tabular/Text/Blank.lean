/-!
# Blanks, words and lines

A blank is a character with the white space property, which the byte order mark and the zero width
space do not have. A word is a maximal run of other characters.
-/

namespace Tabular.Text

/-- Whether a character has the white space property. -/
def isBlank (c : Char) : Bool :=
  let n := c.toNat
  (9 ≤ n && n ≤ 13) || n == 0x20 || n == 0x85 || n == 0xA0 || n == 0x1680 ||
    (0x2000 ≤ n && n ≤ 0x200A) || n == 0x2028 || n == 0x2029 || n == 0x202F || n == 0x205F ||
    n == 0x3000

/-- Adds a character in front of a split text, given as its unfinished first word and the words
after it. -/
def consWord (c : Char) : List Char × List (List Char) → List Char × List (List Char)
  | (word, words) =>
    if isBlank c then ([], if word.isEmpty then words else word :: words) else (c :: word, words)

/-- The words of a list of characters. -/
def wordsOf (cs : List Char) : List (List Char) :=
  let (word, words) := cs.foldr consWord ([], [])
  if word.isEmpty then words else word :: words

/-- The words of a text. -/
def words (text : String) : List String := (wordsOf text.toList).map String.ofList

/-- A text without the blanks at its ends. -/
def trim (text : String) : String :=
  .ofList ((text.toList.dropWhile isBlank).reverse.dropWhile isBlank).reverse

/-- Adds a character in front of the lines of a text. -/
def consLine (c : Char) (lines : List (List Char)) : List (List Char) :=
  if c = '\n' then [] :: lines
  else
    match lines with
    | [] => [[c]]
    | line :: lines => (c :: line) :: lines

/-- The lines of a text. A line ends at a line feed or at the end of the text. -/
def lines (text : String) : List String := (text.toList.foldr consLine []).map String.ofList

end Tabular.Text
