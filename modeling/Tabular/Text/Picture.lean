import Tabular.Text.Ligature

/-!
# Picture sequences

Emoji that follow each other can be one picture: an emoji with its skin tone, two letters of a flag,
a flag with its tags, or pictures around joiners. A picture takes two columns. A text is measured
from its end, so the end of a possible sequence is kept as a `PictureTail`, and `PictureTail.join`
says how many columns the character in front of it adds.
-/

namespace Tabular.Text

/-- Letters of flags stand for a country two by two. -/
def isFlagLetter (c : Char) : Bool := isBetween 0x1F1E6 0x1F1FF c

/-- Skin tones modify the emoji in front of them. -/
def isSkinTone (c : Char) : Bool := isBetween 0x1F3FB 0x1F3FF c

/-- The black flag, which tags turn into the flag of a region. -/
def isTagBase (c : Char) : Bool := c.toNat == 0x1F3F4

/-- How many letters of flags stand in front of a joiner. -/
inductive FlagLetters
  | one
  | even
  | odd
deriving DecidableEq, Repr

/-- The end of a possible picture sequence. -/
inductive PictureTail
  | picture
  | skinTone
  /-- A letter of a flag, or more than one. -/
  | flagLetter (several : Bool)
  /-- A joiner with a picture behind it. -/
  | joined
  /-- A keycap with a joiner and a picture behind it. -/
  | joinedKeycap
  /-- Letters of flags with a joiner and a picture behind them. -/
  | joinedFlag (letters : FlagLetters)
  /-- The last tags of a region, so many letters and the end, with a joiner and a picture behind. -/
  | tagLetters (count : Nat)
  /-- The same from so many digits on. -/
  | tagDigits (count : Nat)
deriving DecidableEq, Repr

namespace PictureTail

/-- The end of a picture sequence that a character by itself may be. -/
def ofChar? (c : Char) : Option PictureTail :=
  if isFlagLetter c then some (.flagLetter false)
  else if isSkinTone c then some .skinTone
  else if pictures.contains c then some .picture
  else none

/-- Whether a joiner ties the sequence to the picture in front of it. -/
def isJoined : PictureTail → Bool
  | .joined | .joinedKeycap => true
  | _ => false

/-- Whether a joiner can tie a picture to the sequence. -/
def takesJoiner : PictureTail → Bool
  | .picture | .skinTone | .flagLetter true | .joinedFlag .even | .joinedFlag .odd => true
  | _ => false

/-- The columns that a character other than the joiner adds in front of the end of a sequence, and
the end of a larger sequence that may begin with it. It is `none` where the character does not
join. -/
def extend (tail : PictureTail) (c : Char) : Option (Int × PictureTail) :=
  match tail with
  | .picture | .joinedKeycap => none
  | .skinTone => if modifiable.contains c then some (0, .picture) else none
  | .flagLetter _ => if isFlagLetter c then some (1, .flagLetter true) else none
  | .joined =>
    if c.toNat = 0x20E3 then some (0, .joinedKeycap)
    else if isFlagLetter c then some (1, .joinedFlag .one)
    else if isSkinTone c then some (0, .skinTone)
    else if c.toNat = 0xE007F then some (0, .tagLetters 0)
    else if pictures.contains c then some (0, .picture)
    else none
  | .joinedFlag .even => if isFlagLetter c then some (3, .joinedFlag .odd) else none
  | .joinedFlag _ => if isFlagLetter c then some (-1, .joinedFlag .even) else none
  | .tagLetters count =>
    if isBetween 0xE0061 0xE007A c && count < 6 then some (0, .tagLetters (count + 1))
    else if isBetween 0xE0030 0xE0039 c && count ≤ 4 then some (0, .tagDigits 1)
    else if isTagBase c && 3 ≤ count then some (0, .picture)
    else none
  | .tagDigits count =>
    if isBetween 0xE0030 0xE0039 c && count < 3 then some (0, .tagDigits (count + 1))
    else if isTagBase c && count == 3 then some (0, .picture)
    else none

/-- The same for all characters. -/
def join (tail : PictureTail) (c : Char) : Option (Int × PictureTail) :=
  if c = joiner && tail.takesJoiner then some (0, .joined) else tail.extend c

end PictureTail

end Tabular.Text
