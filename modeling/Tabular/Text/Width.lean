import Tabular.Text.Picture

/-!
# Display width

The number of terminal columns that a text takes. It is the sum of the widths of its characters but
for letters and pictures that are drawn as one. The text is measured from its end: `measure` adds a
character to the width of what stands behind it, and keeps in a `Behind` what the character in front
of that can still change.
-/

namespace Tabular.Text

/-- Asks for the emoji in front of it to be shown as text. -/
def textSelector : Char := Char.ofNat 0xFE0E

/-- Asks for the emoji in front of it to be shown as a picture. -/
def pictureSelector : Char := Char.ofNat 0xFE0F

/-- Asks for the quotation mark in front of it to be shown in two columns. -/
def wideSelector : Char := Char.ofNat 0xFE01

/-- The width of a character for itself, where it is not a picture. -/
def charWidth (c : Char) : Nat :=
  if c.toNat ≤ 0xA0 then 1
  else if c.toNat = 0x17D8 then 3
  else if zeroWidth.contains c then 0
  else if doubleWidth.contains c then 2
  else 1

/-- Whether a character can be shown as a picture or as text, and is a picture where nothing is
asked for. Those that stand for words are excepted. -/
def hasTextForm (c : Char) : Bool :=
  pictures.contains c && pictureForms.contains c && !isBetween 0x1F200 0x1F2FF c

/-- Whether a character is one of the quotation marks that can be wide. -/
def isQuotationMark (c : Char) : Bool := isBetween 0x2018 0x2019 c || isBetween 0x201C 0x201D c

/-- What begins behind a character, as far as it can change the width of the character. -/
inductive Start
  | plain
  | lineFeed
  | letter (tail : LetterTail)
  | picture (tail : PictureTail)
deriving DecidableEq, Repr

/-- What stands behind a character: the beginning of the text there, and the selectors in front of
it. -/
structure Behind where
  start : Start := .plain
  asPicture : Bool := false
  asText : Bool := false
  asWide : Bool := false
deriving DecidableEq, Repr

namespace Behind

/-- Whether selectors do not hide the beginning of a ligature. -/
def keepsSelectors (behind : Behind) : Bool :=
  match behind.start with
  | .letter tail => tail.keepsSelectors
  | _ => false

/-- Whether a joiner ties what stands behind to the picture in front of it. -/
def isJoined (behind : Behind) : Bool :=
  match behind.start with
  | .picture tail => tail.isJoined
  | _ => false

/-- What stands behind when a picture selector comes in front of it. -/
def selectPicture (behind : Behind) : Behind :=
  if behind.keepsSelectors || behind.isJoined then { behind with asPicture := true }
  else { asPicture := true }

/-- What stands behind when a text selector comes in front of it. -/
def selectText (behind : Behind) : Behind :=
  if behind.keepsSelectors then { behind with asText := true } else { asText := true }

/-- What stands behind when a selector of a wide form comes in front of it. -/
def selectWide (behind : Behind) : Behind :=
  if behind.keepsSelectors then { behind with asWide := true } else { asWide := true }

/-- What stands behind a character that cannot be shown as a picture. -/
def dropPicture (behind : Behind) : Behind :=
  if !behind.asPicture then behind
  else if behind.keepsSelectors then { behind with asPicture := false }
  else {}

end Behind

/-- The width of a character that joins nothing, and what it is to the character in front of it. -/
def measureAlone (c : Char) : Int × Start :=
  match PictureTail.ofChar? c with
  | some tail => (if isFlagLetter c then 1 else 2, .picture tail)
  | none => (charWidth c, (LetterTail.ofChar? c).elim .plain .letter)

/-- The columns of a character that no selector changes, and what it and the text behind it are to
the character in front of them. A selector that still waits keeps the character from joining. -/
def measureJoined (c : Char) (behind : Behind) : Int × Behind :=
  let alone := let (columns, start) := measureAlone c; (columns, { start })
  match behind.start with
  | .letter tail =>
    if tail.reachesOver && c = joiner then (0, { behind with start := .letter tail.tie })
    else if tail.reachesOver && leavesLigature c then (0, behind)
    else if behind.asWide then alone
    else
      match tail.join c with
      | some (columns, larger) => (columns, { start := larger.elim .plain .letter })
      | none => alone
  | .picture tail =>
    match tail.join c with
    | some (columns, larger) => (columns, { start := .picture larger })
    | none => alone
  | _ => alone

/-- The columns that a character adds in front of a measured text, and what the two together are to
the character in front of them. A selector counts for the next character only. Where one of a text
form and one of a wide form are left, that of the wide form waits for the character after it. -/
def measure (c : Char) (behind : Behind) : Int × Behind :=
  if behind.asPicture && pictureForms.contains c then
    (if behind.isJoined then 0 else 2, { start := .picture .picture })
  else
    let behind := behind.dropPicture
    if c = '\n' then (1, { start := .lineFeed })
    else if c = '\r' && behind.start = .lineFeed then (0, {})
    else if c.toNat ≤ 0xA0 then (1, {})
    else if c = pictureSelector then (0, behind.selectPicture)
    else if c = textSelector then (0, behind.selectText)
    else if c = wideSelector then (0, behind.selectWide)
    else if behind.asText then
      if hasTextForm c then (1, {}) else measureJoined c { behind with asText := false }
    else if behind.asWide then
      if isQuotationMark c then (2, {}) else measureJoined c { behind with asWide := false }
    else measureJoined c behind

/-- Adds a character in front of a measured text. -/
def addMeasured (c : Char) (measured : Int × Behind) : Int × Behind :=
  let (columns, behind) := measure c measured.2
  (measured.1 + columns, behind)

/-- The number of terminal columns that a text takes. -/
def width (text : String) : Nat := (text.toList.foldr addMeasured (0, {})).1.toNat

end Tabular.Text
