import Tabular.Toml.Scalar

/-!
# TOML documents

A document is a list of statements, one on a line: a header of a table, a header of a new table in a
list of tables, or an entry of the table of the last header. Reading a document first reads its
statements and then carries them out. A text that breaks a rule has no table at all.
-/

namespace Tabular.Toml

/-- The most lists and tables in braces that may stand inside each other. -/
def maxNesting : Nat := 79

/-- The most parts of a key. -/
def maxParts : Nat := 79

/-! ## Blanks, comments and keys -/

/-- The characters without the blanks at their start. -/
def skipBlanks (cs : List Char) : List Char := cs.dropWhile fun c => c == ' ' || c == '\t'

/-- The characters without the blanks, line ends and comments at their start. -/
def skipGap (inComment : Bool) : List Char → List Char
  | [] => []
  | c :: cs =>
    if c = '\n' then skipGap false cs
    else if isReturn c cs then skipGap inComment cs
    else if inComment && isPlain c then skipGap true cs
    else if c = '#' then skipGap true cs
    else if c = ' ' ∨ c = '\t' then skipGap false cs
    else c :: cs

/-- The end of a line: blanks, an optional comment, and a line end or the end of the text. -/
def readLineEnd (cs : List Char) : Option (List Char) :=
  let rest := match skipBlanks cs with
    | '#' :: comment => comment.dropWhile isPlain
    | rest => rest
  match rest with
  | [] => some []
  | '\n' :: rest => some rest
  | '\r' :: '\n' :: rest => some rest
  | _ => none

/-- A character of a name without quotes. -/
def isNameChar (c : Char) : Bool := c.isAlphanum || c == '_' || c == '-'

/-- Reads one part of a key. -/
def readName (cs : List Char) : Option (String × List Char) :=
  match cs.span isNameChar with
  | ([], _) => (readLineText cs).map fun (name, rest) => (.ofList name, rest)
  | (name, rest) => some (.ofList name, rest)

/-- Reads a key of at most so many parts, with points between them. -/
def readKey : Nat → List Char → Option (Key × List Char)
  | 0, _ => none
  | parts + 1, cs => do
    let (name, rest) ← readName cs
    match skipBlanks rest with
    | '.' :: more =>
      let (key, rest) ← readKey parts (skipBlanks more)
      return ({ key with parents := name :: key.parents }, rest)
    | _ => return ({ parents := [], name }, rest)

/-! ## Values -/

/-- Reads a key and its value, with an equals sign between them. -/
def readEntry (readItem : List Char → Option (Value × List Char)) (cs : List Char) :
    Option ((Key × Value) × List Char) := do
  let (key, rest) ← readKey maxParts cs
  match skipBlanks rest with
  | '=' :: rest =>
    let (value, rest) ← readItem (skipBlanks rest)
    return ((key, value), rest)
  | _ => none

/-- Reads the values of a list up to its closing bracket. The last one may have a comma too. -/
def readItems (readItem : List Char → Option (Value × List Char)) (cs : List Char) :
    Option (List Value × List Char) :=
  match skipGap false cs with
  | ']' :: rest => some ([], rest)
  | start => do
    let (value, rest) ← readItem start
    match skipGap false rest with
    | ']' :: rest => some ([value], rest)
    | ',' :: rest =>
      if rest.length < cs.length then
        (readItems readItem rest).map fun (values, rest) => (value :: values, rest)
      else none
    | _ => none
termination_by cs.length

/-- Reads the entries of a table up to its closing brace, behind the blanks after the opening one or
after a comma. -/
def readEntries (readItem : List Char → Option (Value × List Char)) (cs : List Char) :
    Option (List (Key × Value) × List Char) := do
  let (entry, rest) ← readEntry readItem cs
  match skipBlanks rest with
  | '}' :: rest => some ([entry], rest)
  | ',' :: rest =>
    let next := skipBlanks rest
    if next.length < cs.length then
      (readEntries readItem next).map fun (entries, rest) => (entry :: entries, rest)
    else none
  | _ => none
termination_by cs.length

/-- Reads a value with at most so many lists and tables in braces inside each other. -/
def readValue : Nat → List Char → Option (Value × List Char)
  | 0, cs => readPlainValue cs
  | nesting + 1, '[' :: cs =>
    (readItems (readValue nesting) cs).map fun (values, rest) => (.list values, rest)
  | nesting + 1, '{' :: cs =>
    match skipBlanks cs with
    | '}' :: rest => some (.table .inline [], rest)
    | start => do
      let (entries, rest) ← readEntries (readValue nesting) start
      let table ← Table.ofEntries? entries
      return (.table .inline table, rest)
  | _ + 1, cs => readPlainValue cs
where
  /-- Reads a value that holds no other values. -/
  readPlainValue (cs : List Char) : Option (Value × List Char) :=
    match readText cs with
    | some (text, rest) => some (.text (.ofList text), rest)
    | none => readScalar cs

/-! ## Statements -/

/-- A statement of a document. -/
inductive Statement
  /-- The header of a table. -/
  | table (key : Key)
  /-- The header of a new table in a list. -/
  | item (key : Key)
  | entry (key : Key) (value : Value)

/-- Reads the key of a header up to its closing brackets. -/
def readHeader (cs : List Char) : Option (Key × List Char) := do
  let (key, rest) ← readKey maxParts (skipBlanks cs)
  match skipBlanks rest with
  | ']' :: rest => some (key, rest)
  | _ => none

/-- Reads the statement at the start of a line. -/
def readStatement : List Char → Option (Statement × List Char)
  | '[' :: '[' :: cs => do
    let (key, rest) ← readHeader cs
    match rest with
    | ']' :: rest => return (.item key, rest)
    | _ => none
  | '[' :: cs => (readHeader cs).map fun (key, rest) => (.table key, rest)
  | cs => (readEntry (readValue maxNesting) cs).map fun ((key, value), rest) =>
    (.entry key value, rest)

/-- Reads a line, which may have no statement. -/
def readLine (cs : List Char) : Option (Option Statement × List Char) :=
  match readLineEnd cs with
  | some rest => some (none, rest)
  | none => do
    let (statement, rest) ← readStatement (skipBlanks cs)
    let rest ← readLineEnd rest
    return (some statement, rest)

/-- Reads all lines. -/
def readLines (cs : List Char) : Option (List Statement) :=
  if cs.isEmpty then some []
  else do
    let (statement, rest) ← readLine cs
    if rest.length < cs.length then
      (readLines rest).map fun statements => statement.toList ++ statements
    else none
termination_by cs.length

/-! ## Documents -/

/-- A document that is being read: its table, and the way to the table of the last header. -/
structure Draft where
  root : Table := []
  current : List String := []

/-- Carries out a statement. -/
def Draft.add (d : Draft) : Statement → Option Draft
  | .table key => (d.root.within (·.define key.name) key.parents).map fun root =>
    { root, current := key.path }
  | .item key => (d.root.within (·.append key.name) key.parents).map fun root =>
    { root, current := key.path }
  | .entry key value => (d.root.within (·.assign key.name value key.parents) d.current).map fun root =>
    { d with root }

/-- The table of a document. A byte order mark at the start does not count. -/
def Table.ofText? (text : String) : Option Table := do
  let cs := match text.toList with
    | '\uFEFF' :: cs => cs
    | cs => cs
  let draft ← (← readLines cs).foldlM Draft.add {}
  return draft.root

end Tabular.Toml
