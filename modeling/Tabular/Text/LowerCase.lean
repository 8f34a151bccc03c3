import Tabular.Text.CaseTable

/-!
# Lower case

The lower case of a text by the full rules of Unicode: one character can become two, and a capital
sigma takes its final form at the end of a word.
-/

namespace Tabular.Text

/-- The lower case of a character for itself. -/
def lowerChar (c : Char) : List Char :=
  if c.toNat < 0x80 then [c.toLower]
  else if c.toNat = 0x130 then ['i', Char.ofNat 0x307]
  else
    match lowerCaseMappings[partitionPoint (fun m => m.last < c.toNat) lowerCaseMappings]? with
    | some m =>
      if m.first ≤ c.toNat && (c.toNat - m.first) % m.step == 0 then
        [Char.ofNat (c.toNat + m.offset).toNat]
      else [c]
    | none => [c]

/-- Whether the nearest character that is not passed over is cased. -/
def meetsCased (cs : List Char) : Bool :=
  match cs.dropWhile (CodeRanges.contains caseIgnorable) with
  | c :: _ => CodeRanges.contains casedOnly c
  | [] => false

/-- The form of a sigma between the characters in front of it, nearest first, and those after it. -/
def sigma (before after : List Char) : Char :=
  if meetsCased before && !meetsCased after then 'ς' else 'σ'

/-- The lower case of a list of characters that stands behind `before`, nearest first. -/
def lowerAfter (before : List Char) : List Char → List Char
  | [] => []
  | c :: after =>
    (if c = 'Σ' then [sigma before after] else lowerChar c) ++ lowerAfter (c :: before) after

/-- The lower case of a text. -/
def lower (text : String) : String := .ofList (lowerAfter [] text.toList)

end Tabular.Text
