import Tabular.Text.Quoted

/-!
# Texts by bytes

A text takes one to four bytes for each character. `takeBytes` takes a number of bytes off its
front, and fails with a `Cut` where the last of them is not the last of a character.
-/

namespace Tabular.Text

/-- The bytes that characters take together. -/
def byteSize : List Char → Nat
  | [] => 0
  | c :: cs => c.utf8Size + byteSize cs

/-- A position inside a character, which takes the bytes from `first` up to `last`. -/
structure Cut where
  position : Nat
  character : Char
  first : Nat
  last : Nat
deriving Repr, DecidableEq

/-- The description of a position inside a character. -/
def Cut.message (cut : Cut) : String :=
  "end byte index " ++ toString cut.position ++ " is not a char boundary; it is inside '"
    ++ escape cut.character ++ "' (bytes " ++ toString cut.first ++ ".." ++ toString cut.last
    ++ " of string)"

/-- The characters of so many bytes of a text, of which `start` bytes have been taken before. -/
def takeBytesFrom (start bytes : Nat) : List Char → Except Cut (List Char)
  | [] => .ok []
  | c :: cs =>
    if bytes = 0 then .ok []
    else if c.utf8Size ≤ bytes then
      (takeBytesFrom (start + c.utf8Size) (bytes - c.utf8Size) cs).map (c :: ·)
    else
      .error { position := start + bytes, character := c, first := start,
               last := start + c.utf8Size }

/-- The characters of so many bytes at the front of a text. -/
def takeBytes (bytes : Nat) (cs : List Char) : Except Cut (List Char) := takeBytesFrom 0 bytes cs

end Tabular.Text
