import Tabular.Text.WidthTable

/-!
# Ligatures

Letters of some scripts are written in one piece with the letter in front of them. A text is
measured from its end, so a letter that may be the end of a ligature is kept as a `LetterTail` until
the character in front of it is known. `LetterTail.join` says which characters complete the
ligature, and how many columns they add to it.
-/

namespace Tabular.Text

/-- The zero width joiner, which ties the characters around it into one shape. -/
def joiner : Char := Char.ofNat 0x200D

/-- Whether the code point of a character is between two bounds. -/
def isBetween (first last : Nat) (c : Char) : Bool := first ≤ c.toNat && c.toNat ≤ last

/-- The end of a possible ligature. `tied` says whether a joiner stands in front of it. -/
inductive LetterTail
  /-- An alef, which a lam takes in. -/
  | alef
  /-- A lamed, which an alef takes in over a joiner. -/
  | lamed (tied : Bool)
  /-- A Buginese ya, which the vowel sign i takes in over a joiner. -/
  | ya (tied : Bool)
  /-- A Buginese vowel sign i with the ya behind it, which a letter a takes in. -/
  | vowelYa
  /-- A Tifinagh consonant, which another one takes in over a joiner. -/
  | consonant (tied : Bool)
  /-- A Tifinagh consonant with the script's own joiner in front of it. -/
  | joinedConsonant
  /-- A Lisu tone letter, which another one takes in. -/
  | tone
  /-- An Old Turkic i, which an orkhon ec takes in over a joiner. -/
  | turkicI (tied : Bool)
  /-- A Khmer letter, which the sign coeng puts under the letter in front of it. -/
  | khmer
  /-- A Kirat Rai vowel sign e, which other vowel signs take in. -/
  | vowelE
  /-- A Kirat Rai vowel sign ai, which the vowel sign aa takes in. -/
  | vowelAi
deriving DecidableEq, Repr

/-- Whether a character is a lam. -/
def isLam (c : Char) : Bool :=
  c.toNat == 0x644 || isBetween 0x6B5 0x6B8 c || c.toNat == 0x76A || c.toNat == 0x8A6 ||
    c.toNat == 0x8C7

/-- Whether a character is an alef. -/
def isAlef (c : Char) : Bool :=
  isBetween 0x622 0x623 c || c.toNat == 0x625 || c.toNat == 0x627 || isBetween 0x671 0x673 c ||
    c.toNat == 0x675 || isBetween 0x773 0x774 c || isBetween 0x870 0x882 c

/-- Whether a character is a Tifinagh consonant. -/
def isTifinagh (c : Char) : Bool := isBetween 0x2D31 0x2D65 c || c.toNat == 0x2D6F

/-- Whether a character is a Khmer letter that can stand under another one. -/
def isKhmer (c : Char) : Bool :=
  isBetween 0x1780 0x1782 c || isBetween 0x1784 0x1787 c || isBetween 0x1789 0x178C c ||
    isBetween 0x178E 0x1793 c || isBetween 0x1795 0x1798 c || isBetween 0x179B 0x179D c ||
    c.toNat == 0x17A0 || c.toNat == 0x17A2 || c.toNat == 0x17A7 || isBetween 0x17AB 0x17AC c ||
    c.toNat == 0x17AF

/-- Whether a mark leaves Arabic letters around it joined. -/
def leavesJoined (c : Char) : Bool := zeroWidth.contains c && !unjoining.contains c

/-- Whether a character between two letters leaves their ligature as it is. -/
def leavesLigature (c : Char) : Bool :=
  c.toNat == 0x34F || isBetween 0x17B4 0x17B5 c || isBetween 0x180B 0x180D c || c.toNat == 0x180F ||
    c = joiner || isBetween 0xFE00 0xFE0F c || isBetween 0xE0100 0xE01EF c

/-- The end of a ligature that a letter by itself may be. -/
def LetterTail.ofChar? (c : Char) : Option LetterTail :=
  if isAlef c then some .alef
  else if c.toNat = 0x5DC then some (.lamed false)
  else if c.toNat = 0x1A10 then some (.ya false)
  else if isTifinagh c then some (.consonant false)
  else if isBetween 0xA4FC 0xA4FD c then some .tone
  else if c.toNat = 0x10C03 then some (.turkicI false)
  else if isKhmer c then some .khmer
  else if c.toNat = 0x16D67 then some .vowelE
  else if c.toNat = 0x16D68 then some .vowelAi
  else none

namespace LetterTail

/-- Whether selectors between the letters of the ligature are passed over. -/
def keepsSelectors : LetterTail → Bool
  | .vowelE | .vowelAi => false
  | _ => true

/-- Whether the ligature reaches over joiners and the characters like it. -/
def reachesOver : LetterTail → Bool
  | .alef | .vowelE | .vowelAi => false
  | _ => true

/-- The end of a ligature with a joiner in front of it. -/
def tie : LetterTail → LetterTail
  | .lamed _ => .lamed true
  | .ya _ => .ya true
  | .consonant _ => .consonant true
  | .turkicI _ => .turkicI true
  | tail => tail

/-- The columns that a character adds in front of the end of a ligature, and the end of a larger
ligature that may begin with it. It is `none` where the character does not join. -/
def join (tail : LetterTail) (c : Char) : Option (Int × Option LetterTail) :=
  match tail with
  | .alef =>
    if isLam c then some (0, none) else if leavesJoined c then some (0, some .alef) else none
  | .lamed tied => if tied && c.toNat == 0x5D0 then some (0, none) else none
  | .ya tied => if tied && c.toNat == 0x1A17 then some (0, some .vowelYa) else none
  | .vowelYa => if c.toNat = 0x1A15 then some (0, none) else none
  | .consonant tied =>
    if c.toNat = 0x2D7F then some (1, some .joinedConsonant)
    else if tied && isTifinagh c then some (0, none)
    else none
  | .joinedConsonant => if isTifinagh c then some (-1, none) else none
  | .tone => if isBetween 0xA4F8 0xA4FB c then some (0, none) else none
  | .turkicI tied => if tied && c.toNat == 0x10C32 then some (0, none) else none
  | .khmer => if c.toNat = 0x17D2 then some (-1, none) else none
  | .vowelE =>
    if c.toNat = 0x16D63 || c.toNat = 0x16D69 then some (0, none)
    else if c.toNat = 0x16D67 then some (0, some .vowelAi)
    else if c.toNat = 0x16D68 then some (1, some .vowelE)
    else none
  | .vowelAi => if c.toNat = 0x16D63 then some (0, none) else none

end LetterTail

end Tabular.Text
