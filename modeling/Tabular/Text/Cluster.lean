import Tabular.Text.ClusterTable
import Tabular.Text.Picture
import Tabular.Text.QuotedTable

/-!
# Clusters

A cluster is what a reader takes for one character: a letter with its marks, a Hangul syllable of
several letters, a flag, a picture sequence. `clusters` divides a text into the extended clusters of
Unicode. It looks at one character at a time and keeps in a `ClusterEnd` what is needed of those in
front of it.
-/

namespace Tabular.Text

/-- What a character is to the cluster that it stands in. -/
inductive ClusterRole
  | carriageReturn
  | lineFeed
  | separating
  | extending
  | joiner
  | spacing
  | prepending
  | flagLetter
  /-- The first part of a Hangul syllable. -/
  | leading
  /-- The second part of a Hangul syllable. -/
  | vowel
  /-- The last part of a Hangul syllable. -/
  | trailing
  /-- A Hangul syllable, which is closed if it has a last part. -/
  | syllable (closed : Bool)
  | pictograph
  | consonant
  | other
deriving DecidableEq, Repr

/-- Whether a character belongs to the cluster in front of it and has no width of its own there. -/
def isExtending (c : Char) : Bool :=
  combining.contains c || isBetween 0xFF9E 0xFF9F c || isSkinTone c

/-- The role of a character. -/
def ClusterRole.ofChar (c : Char) : ClusterRole :=
  if c = '\r' then .carriageReturn
  else if c = '\n' then .lineFeed
  else if c.toNat < 0x20 then .separating
  else if c.toNat < 0x7F then .other
  else if c = Text.joiner then .joiner
  else if separators.contains c then .separating
  else if isExtending c then .extending
  else if spacingMarks.contains c then .spacing
  else if prependers.contains c then .prepending
  else if isFlagLetter c then .flagLetter
  else if isBetween 0xAC00 0xD7A3 c then .syllable ((c.toNat - 0xAC00) % 28 != 0)
  else if isBetween 0x1100 0x115F c || isBetween 0xA960 0xA97C c then .leading
  else if isBetween 0x1160 0x11A7 c || isBetween 0xD7B0 0xD7C6 c || c.toNat == 0x16D63 ||
      isBetween 0x16D67 0x16D6A c then .vowel
  else if isBetween 0x11A8 0x11FF c || isBetween 0xD7CB 0xD7FB c then .trailing
  else if pictographs.contains c then .pictograph
  else if consonants.contains c then .consonant
  else .other

/-- How far a consonant at the end of a cluster is linked to the next character. -/
inductive Link
  | none
  /-- A consonant with marks behind it. -/
  | consonant
  /-- A consonant with a linker among the marks behind it. -/
  | linked
deriving DecidableEq, Repr

/-- How far a pictograph at the end of a cluster is tied to the next character. -/
inductive Tie
  | none
  /-- A pictograph with marks behind it. -/
  | pictograph
  /-- A pictograph with marks and then a joiner behind it. -/
  | tied
deriving DecidableEq, Repr

/-- What is kept of the characters of an unfinished cluster. -/
structure ClusterEnd where
  /-- The role of the last character. -/
  role : ClusterRole := .other
  /-- Whether the number of flag letters at the end is odd. -/
  oddFlags : Bool := false
  link : Link := .none
  tie : Tie := .none

namespace ClusterEnd

/-- What is kept when a character is added to a cluster. -/
def push (e : ClusterEnd) (c : Char) : ClusterEnd where
  role := .ofChar c
  oddFlags := isFlagLetter c && !e.oddFlags
  link :=
    if .ofChar c = ClusterRole.consonant then .consonant
    else if e.link = .none then .none
    else if linkers.contains c then .linked
    else if c = Text.joiner || (isExtending c && c.toNat != 0x200C) then e.link
    else .none
  tie :=
    match ClusterRole.ofChar c, e.tie with
    | .pictograph, _ => .pictograph
    | .extending, .pictograph => .pictograph
    | .joiner, .pictograph => .tied
    | _, _ => .none

/-- Whether a character belongs to the same cluster as those in front of it. -/
def joins (e : ClusterEnd) (c : Char) : Bool :=
  match e.role, ClusterRole.ofChar c with
  | .carriageReturn, .lineFeed => true
  | .carriageReturn, _ | .lineFeed, _ | .separating, _ => false
  | _, .carriageReturn | _, .lineFeed | _, .separating => false
  | .leading, .leading | .leading, .vowel | .leading, .syllable _ => true
  | .syllable false, .vowel | .syllable _, .trailing => true
  | .vowel, .vowel | .vowel, .trailing | .trailing, .trailing => true
  | _, .extending | _, .joiner | _, .spacing => true
  | .prepending, _ => true
  | _, .consonant => e.link = .linked
  | _, .pictograph => e.tie = .tied
  | .flagLetter, .flagLetter => e.oddFlags
  | _, _ => false

end ClusterEnd

/-- The clusters of a list of characters behind an unfinished cluster, given in reverse. -/
def clustersAfter (unfinished : List Char) (e : ClusterEnd) : List Char → List (List Char)
  | [] => [unfinished.reverse]
  | c :: rest =>
    if e.joins c then clustersAfter (c :: unfinished) (e.push c) rest
    else unfinished.reverse :: clustersAfter [c] (({} : ClusterEnd).push c) rest

/-- The clusters of a list of characters. -/
def clusters : List Char → List (List Char)
  | [] => []
  | c :: rest => clustersAfter [c] (({} : ClusterEnd).push c) rest

end Tabular.Text
