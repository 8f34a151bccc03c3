import Tabular.Proofs.Toml.Text
import Tabular.Toml.Document

/-!
# Lines of a document

A document is read line by line. A header and an entry with a name without quotes are read when they
are alone on their line, an entry with the value that is read behind its equals sign. Sizes are read
as they are printed and texts as they are written.
-/

namespace Tabular.Toml

variable {c d : Char} {cs rest name : List Char} {n : Nat}

/-! ## Digits -/

/-- A digit is none of the other characters of a number. -/
theorem ne_of_isDigit (digit : c.isDigit = true) (other : d.isDigit = false) : c ≠ d := by
  rintro rfl
  rw [digit] at other
  cases other

/-- Sizes are printed with decimal digits only. -/
theorem isDigit_of_mem_toDigits (mem : c ∈ Nat.toDigits 10 n) : c.isDigit = true :=
  Nat.isDigit_of_mem_toDigits (by decide) (by decide) mem

/-- Only 0 is printed with a zero in front. -/
theorem toDigits_of_zero (zero : Nat.toDigits 10 n = '0' :: cs) : cs = [] ∧ n = 0 := by
  induction n using Nat.strongRecOn generalizing cs with
  | ind n ih =>
    by_cases small : n < 10
    · have value := Nat.ofDigitChars_ten_toDigits (n := n)
      rw [Nat.toDigits_of_lt_base small] at zero
      obtain ⟨first, rfl⟩ := List.cons.inj zero
      rw [Nat.toDigits_of_lt_base small, first] at value
      exact ⟨rfl, value.symm⟩
    · rw [Nat.toDigits_of_base_le (by decide) (Nat.le_of_not_lt small)] at zero
      -- The zero in front is that of the quotient, which is not 0.
      cases digits : Nat.toDigits 10 (n / 10) with
      | nil => exact absurd digits Nat.toDigits_ne_nil
      | cons c more =>
        rw [digits] at zero
        obtain ⟨rfl, -⟩ := List.cons.inj zero
        have := (ih (n / 10) (by omega) digits).2
        omega

/-- Digits without underscores are not grouped. -/
theorem ungroup?_of_digits {isDigit : Char → Bool} (underscore : isDigit '_' = false)
    (notEmpty : cs ≠ []) (all : ∀ c ∈ cs, isDigit c = true) : ungroup? isDigit cs = some cs := by
  induction cs with
  | nil => exact absurd rfl notEmpty
  | cons c cs ih =>
    have first := all c List.mem_cons_self
    cases cs with
    | nil => exact if_pos first
    | cons d cs =>
      have rest := ih (by simp) fun e mem => all e (List.mem_cons_of_mem c mem)
      have digit : isDigit d = true := all d (List.mem_cons_of_mem c List.mem_cons_self)
      have ne : d ≠ '_' := by
        rintro rfl
        rw [underscore] at digit
        cases digit
      rw [ungroup?, if_pos first, rest]
      · rfl
      · exact List.cons_ne_nil d cs
      · exact fun more eq => ne (List.cons.inj eq).1

/-- The digits of a printed size are those of a whole number, without a zero in front. -/
theorem wholeDigits?_toDigits (n : Nat) :
    wholeDigits? (Nat.toDigits 10 n) = some (Nat.toDigits 10 n) := by
  unfold wholeDigits?
  rw [ungroup?_of_digits (by decide) Nat.toDigits_ne_nil fun c => isDigit_of_mem_toDigits]
  split
  · next eq =>
    have := (toDigits_of_zero (Option.some.inj eq)).1
    cases this
  · rfl

/-- A number without a sign is not negative. -/
theorem readSign_of_digit (digit : c.isDigit = true) (cs : List Char) :
    Decimal.readSign (c :: cs) = (false, c :: cs) := by
  unfold Decimal.readSign
  split
  · next eq => exact absurd (List.cons.inj eq).1 (ne_of_isDigit digit (by decide))
  · next eq => exact absurd (List.cons.inj eq).1 (ne_of_isDigit digit (by decide))
  · rfl

/-- A printed size is read as an integer. -/
theorem anyInteger?_toDigits (n : Nat) : anyInteger? (Nat.toDigits 10 n) = some (n : Int) := by
  have whole := wholeDigits?_toDigits n
  have value := Nat.ofDigitChars_ten_toDigits (n := n)
  cases digits : Nat.toDigits 10 n with
  | nil => exact absurd digits Nat.toDigits_ne_nil
  | cons c cs =>
    have digit : c.isDigit = true :=
      isDigit_of_mem_toDigits (n := n) (by rw [digits]; exact List.mem_cons_self)
    rw [digits] at whole value
    by_cases zero : c = '0'
    · subst zero
      obtain ⟨rfl, rfl⟩ := toDigits_of_zero digits
      rfl
    · unfold anyInteger?
      split
      · next eq => exact absurd (List.cons.inj eq).1 zero
      · next eq => exact absurd (List.cons.inj eq).1 zero
      · next eq => exact absurd (List.cons.inj eq).1 zero
      · rw [readSign_of_digit digit]
        dsimp only
        rw [whole, Option.map_some, value]
        rfl

/-- A digit can stand in a token. -/
theorem isTokenChar_of_isDigit (digit : c.isDigit = true) : isTokenChar c = true := by
  simp [isTokenChar, Char.isAlphanum, digit]

/-- The token of a printed size, if it is not too large, is an integer. -/
theorem ofToken?_toDigits (small : n < 0x8000000000000000) :
    ofToken? (Nat.toDigits 10 n) = some (.integer n) := by
  have integer : integer? (Nat.toDigits 10 n) = some (n : Int) := by
    unfold integer?
    rw [anyInteger?_toDigits, Option.filter_some]
    refine if_pos ?_
    simp only [isInteger, Bool.and_eq_true, decide_eq_true_eq]
    omega
  have word : ∀ c cs, c.isDigit = false → Nat.toDigits 10 n ≠ c :: cs := by
    intro c cs other eq
    exact ne_of_isDigit (isDigit_of_mem_toDigits (n := n) (by rw [eq]; exact List.mem_cons_self))
      other rfl
  unfold ofToken?
  rw [if_neg (word _ _ (by decide)), if_neg (word _ _ (by decide)), integer]

/-- A printed size is read up to the end of the line. -/
theorem readScalar_toDigits (small : n < 0x8000000000000000) (rest : List Char) :
    readScalar (Nat.toDigits 10 n ++ '\n' :: rest) = some (.integer n, '\n' :: rest) := by
  have all : ∀ c ∈ Nat.toDigits 10 n, isTokenChar c = true := fun c mem =>
    isTokenChar_of_isDigit (isDigit_of_mem_toDigits mem)
  have noTime : timeBehindDate? (Nat.toDigits 10 n) ('\n' :: rest) = none := by
    unfold timeBehindDate?
    split
    · next eq => cases eq
    · rfl
  unfold readScalar
  rw [List.span_eq_takeWhile_dropWhile, List.takeWhile_append_of_pos all,
    List.dropWhile_append_of_pos all, List.takeWhile_cons_of_neg (by decide),
    List.dropWhile_cons_of_neg (by decide), List.append_nil]
  dsimp only
  rw [ofToken?_toDigits small, noTime]
  rfl

/-! ## Values -/

/-- A value that opens neither a list nor a table holds no other values. -/
theorem readValue_of_plain (notList : c ≠ '[') (notTable : c ≠ '{') (nesting : Nat)
    (cs : List Char) : readValue nesting (c :: cs) = readValue.readPlainValue (c :: cs) := by
  unfold readValue
  split
  · rfl
  · next eq => exact absurd (List.cons.inj eq).1 notList
  · next eq => exact absurd (List.cons.inj eq).1 notTable
  · rfl

/-- What a text starts with, in whatever style it is written. -/
theorem exists_writeStyled_cons (style : TextStyle) (cs : List Char) :
    ∃ quote more, writeStyled style cs = quote :: more ∧ (quote = '"' ∨ quote = apostrophe) := by
  cases style with
  | basic => exact ⟨_, _, rfl, .inl rfl⟩
  | literal => exact ⟨_, _, rfl, .inr rfl⟩
  | basicLines => exact ⟨_, _, rfl, .inl rfl⟩
  | literalLines => exact ⟨_, _, rfl, .inr rfl⟩

/-- What starts with no quote is no text. -/
theorem readText_of_not_quote (basic : c ≠ '"') (literal : c ≠ apostrophe) (cs : List Char) :
    readText (c :: cs) = none := by
  have line : readLineText (c :: cs) = none := by
    rw [readLineText, if_neg basic, if_neg literal]
  unfold readText
  split
  · next eq =>
    obtain ⟨rfl, -⟩ := List.cons.inj eq
    rw [if_neg fun same => basic (List.cons.inj same).1,
      if_neg fun same => literal (List.cons.inj same).1]
    exact eq ▸ line
  · exact line

/-- A value that is read up to the end of its line, and does not start with a blank. -/
structure ReadsTo (written : List Char) (value : Value) : Prop where
  read : ∀ rest, readValue maxNesting (written ++ '\n' :: rest) = some (value, '\n' :: rest)
  start : ∃ c more, written = c :: more ∧ c ≠ ' ' ∧ c ≠ '\t'

/-- A text is read in the style in which it was written. -/
theorem readsTo_writeStyled {style : TextStyle} (fits : style.Fits cs) :
    ReadsTo (writeStyled style cs) (.text (.ofList cs)) := by
  obtain ⟨quote, more, eq, either⟩ := exists_writeStyled_cons style cs
  constructor
  · intro rest
    have next (quote : Char) (other : quote ≠ '\n') : ('\n' :: rest).head? ≠ some quote :=
      fun same => other (Option.some.inj same).symm
    have read := readText_writeStyled fits ⟨next '"' (by decide), next apostrophe (by decide)⟩
    rw [eq, List.cons_append] at read ⊢
    rw [readValue_of_plain, readValue.readPlainValue, read]
    · rcases either with rfl | rfl <;> decide
    · rcases either with rfl | rfl <;> decide
  · refine ⟨quote, more, eq, ?_⟩
    rcases either with rfl | rfl <;> decide

/-- A printed size is read as the integer that it is, up to the largest one of a document. -/
theorem readsTo_toDigits (small : n < 0x8000000000000000) :
    ReadsTo (Nat.toDigits 10 n) (.integer n) := by
  have scalar := readScalar_toDigits small
  cases digits : Nat.toDigits 10 n with
  | nil => exact absurd digits Nat.toDigits_ne_nil
  | cons c cs =>
    have digit : c.isDigit = true :=
      isDigit_of_mem_toDigits (n := n) (by rw [digits]; exact List.mem_cons_self)
    have ne {d : Char} (other : d.isDigit = false) : c ≠ d := ne_of_isDigit digit other
    constructor
    · intro rest
      have scalar := scalar rest
      rw [digits, List.cons_append] at scalar
      rw [List.cons_append, readValue_of_plain (ne (by decide)) (ne (by decide)),
        readValue.readPlainValue, readText_of_not_quote (ne (by decide)) (ne (by decide))]
      exact scalar
    · exact ⟨c, cs, rfl, ne (by decide), ne (by decide)⟩

/-! ## Lines -/

/-- A name that can be written without quotes. -/
def IsBare (name : List Char) : Prop := name ≠ [] ∧ name.all isNameChar = true

instance (name : List Char) : Decidable (IsBare name) := inferInstanceAs (Decidable (_ ∧ _))

/-- All characters of a name without quotes are those of names. -/
theorem IsBare.nameChars (h : IsBare name) : ∀ c ∈ name, isNameChar c = true :=
  List.all_eq_true.1 h.2

/-- A name without quotes starts with none of the characters that have a meaning. -/
theorem IsBare.exists_cons (h : IsBare name) :
    ∃ c more, name = c :: more ∧ ∀ d, isNameChar d = false → c ≠ d := by
  cases name with
  | nil => exact absurd rfl h.1
  | cons c more =>
    refine ⟨c, more, rfl, fun d other => ?_⟩
    rintro rfl
    rw [h.nameChars c List.mem_cons_self] at other
    cases other

/-- Nothing is skipped in front of a character that is no blank. -/
theorem skipBlanks_of_ne (space : c ≠ ' ') (tab : c ≠ '\t') (cs : List Char) :
    skipBlanks (c :: cs) = c :: cs := by
  unfold skipBlanks
  rw [List.dropWhile_cons_of_neg]
  rw [Bool.or_eq_true, beq_iff_eq, beq_iff_eq]
  exact fun blank => blank.elim space tab

/-- A name without quotes is read up to a character that no name has. -/
theorem IsBare.readName (h : IsBare name) (stop : isNameChar d = false) (rest : List Char) :
    readName (name ++ d :: rest) = some (.ofList name, d :: rest) := by
  have stop : ¬ isNameChar d = true := by rw [stop]; decide
  unfold Toml.readName
  rw [List.span_eq_takeWhile_dropWhile, List.takeWhile_append_of_pos h.nameChars,
    List.dropWhile_append_of_pos h.nameChars, List.takeWhile_cons_of_neg stop,
    List.dropWhile_cons_of_neg stop, List.append_nil]
  split
  · next eq => exact absurd (Prod.mk.inj eq).1 h.1
  · next eq =>
    obtain ⟨rfl, rfl⟩ := Prod.mk.inj eq
    rfl

/-- A name with no point behind it is a whole key. -/
theorem IsBare.readKey (h : IsBare name) (stop : isNameChar d = false) (rest : List Char)
    (noPoint : (skipBlanks (d :: rest)).head? ≠ some '.') (parts : Nat) :
    readKey (parts + 1) (name ++ d :: rest)
      = some ({ parents := [], name := .ofList name }, d :: rest) := by
  rw [Toml.readKey, h.readName stop, Option.bind_eq_bind, Option.bind_some]
  dsimp only
  split
  · next eq =>
    rw [eq] at noPoint
    exact absurd rfl noPoint
  · rfl

/-- A line that starts with a name or a bracket has a statement. -/
theorem readLineEnd_eq_none (other : c ∉ [' ', '\t', '#', '\n', '\r']) (cs : List Char) :
    readLineEnd (c :: cs) = none := by
  have ne {d : Char} (mem : d ∈ [' ', '\t', '#', '\n', '\r']) : c ≠ d := by
    rintro rfl
    exact other mem
  have first {d : Char} (mem : d ∈ [' ', '\t', '#', '\n', '\r']) {more : List Char} :
      c :: cs ≠ d :: more := fun eq => ne mem (List.cons.inj eq).1
  unfold readLineEnd
  rw [skipBlanks_of_ne (ne (by decide)) (ne (by decide))]
  split
  · next eq => exact absurd eq (first (by decide))
  dsimp only
  split
  · next eq => cases eq
  · next eq => exact absurd eq (first (by decide))
  · next eq => exact absurd eq (first (by decide))
  · rfl

/-- A line with a statement is read when nothing follows the statement. -/
theorem readLine_of_readStatement (other : c ∉ [' ', '\t', '#', '\n', '\r']) {statement : Statement}
    (read : readStatement (c :: cs) = some (statement, '\n' :: rest)) :
    readLine (c :: cs) = some (some statement, rest) := by
  have ne {d : Char} (mem : d ∈ [' ', '\t', '#', '\n', '\r']) : c ≠ d := by
    rintro rfl
    exact other mem
  unfold readLine
  rw [readLineEnd_eq_none other, skipBlanks_of_ne (ne (by decide)) (ne (by decide)), read]
  rfl

/-- A header with a name without quotes is read up to its bracket. -/
theorem IsBare.readHeader (h : IsBare name) (rest : List Char) :
    readHeader (name ++ ']' :: rest)
      = some ({ parents := [], name := .ofList name }, rest) := by
  have key := h.readKey (d := ']') (by decide) rest
    (fun point => absurd (Option.some.inj point) (by decide)) 78
  obtain ⟨c, more, rfl, ne⟩ := h.exists_cons
  unfold Toml.readHeader
  rw [List.cons_append] at key ⊢
  rw [skipBlanks_of_ne (ne ' ' (by decide)) (ne '\t' (by decide)),
    show maxParts = 78 + 1 from rfl, key]
  rfl

/-- A header is read when it is alone on its line. -/
theorem IsBare.readLine_header (h : IsBare name) (rest : List Char) :
    readLine ('[' :: (name ++ ']' :: '\n' :: rest))
      = some (some (.table { parents := [], name := .ofList name }), rest) := by
  have header := h.readHeader ('\n' :: rest)
  obtain ⟨c, more, rfl, ne⟩ := h.exists_cons
  refine readLine_of_readStatement (by decide) ?_
  unfold readStatement
  split
  · next eq => exact absurd (List.cons.inj (List.cons.inj eq).2).1 (ne '[' (by decide))
  · next eq =>
    obtain ⟨-, rfl⟩ := List.cons.inj eq
    rw [header]
    rfl
  · next other => exact absurd rfl (other _)

/-- An entry with a name without quotes is read up to the end of its value. -/
theorem IsBare.readEntry (h : IsBare name) {written : List Char} {value : Value}
    (reads : ReadsTo written value) (rest : List Char) :
    readEntry (readValue maxNesting) (name ++ ' ' :: '=' :: ' ' :: (written ++ '\n' :: rest))
      = some (({ parents := [], name := .ofList name }, value), '\n' :: rest) := by
  have key := h.readKey (d := ' ') (by decide) ('=' :: ' ' :: (written ++ '\n' :: rest))
    (fun point => absurd (Option.some.inj point) (by decide)) 78
  have read := reads.read rest
  obtain ⟨c, more, rfl, space, tab⟩ := reads.start
  unfold Toml.readEntry
  rw [show maxParts = 78 + 1 from rfl, key]
  show (readValue maxNesting (skipBlanks (c :: (more ++ '\n' :: rest)))).bind _ = _
  rw [List.cons_append] at read
  rw [skipBlanks_of_ne space tab, read]
  rfl

/-- An entry is read when it is alone on its line. -/
theorem IsBare.readLine_entry (h : IsBare name) {written : List Char} {value : Value}
    (reads : ReadsTo written value) (rest : List Char) :
    readLine (name ++ ' ' :: '=' :: ' ' :: (written ++ '\n' :: rest))
      = some (some (.entry { parents := [], name := .ofList name } value), rest) := by
  have entry := h.readEntry reads rest
  obtain ⟨c, more, rfl, ne⟩ := h.exists_cons
  have first : c ∉ [' ', '\t', '#', '\n', '\r'] := by
    have named := h.nameChars c List.mem_cons_self
    intro mem
    have none : ([' ', '\t', '#', '\n', '\r'].any isNameChar) = true :=
      List.any_eq_true.2 ⟨c, mem, named⟩
    exact absurd none (by decide)
  rw [List.cons_append] at entry ⊢
  refine readLine_of_readStatement first ?_
  unfold readStatement
  split
  · next eq => exact absurd (List.cons.inj eq).1 (ne '[' (by decide))
  · next eq => exact absurd (List.cons.inj eq).1 (ne '[' (by decide))
  · rw [entry]
    rfl

/-- A document is read line by line. -/
theorem readLines_of_readLine {statement : Option Statement} {statements : List Statement}
    (line : readLine cs = some (statement, rest)) (shorter : rest.length < cs.length)
    (later : readLines rest = some statements) :
    readLines cs = some (statement.toList ++ statements) := by
  have notEmpty : ¬ cs.isEmpty = true := by
    rw [List.isEmpty_iff]
    rintro rfl
    exact absurd shorter (Nat.not_lt_zero _)
  rw [readLines, if_neg notEmpty, line]
  show (if rest.length < cs.length then _ else none) = _
  rw [if_pos shorter, later]
  rfl

variable {statements : List Statement}

/-- A blank line has no statement. -/
theorem readLines_blank (later : readLines rest = some statements) :
    readLines ('\n' :: rest) = some statements := by
  have line : readLine ('\n' :: rest) = some (none, rest) := rfl
  exact readLines_of_readLine line (Nat.lt_succ_self _) later

/-- A header is read together with the lines below it. -/
theorem IsBare.readLines_header (h : IsBare name) (later : readLines rest = some statements) :
    readLines ('[' :: (name ++ ']' :: '\n' :: rest))
      = some (.table { parents := [], name := .ofList name } :: statements) := by
  refine readLines_of_readLine (h.readLine_header rest) ?_ later
  simp only [List.length_cons, List.length_append]
  omega

/-- An entry is read together with the lines below it. -/
theorem IsBare.readLines_entry (h : IsBare name) {written : List Char} {value : Value}
    (reads : ReadsTo written value) (later : readLines rest = some statements) :
    readLines (name ++ ' ' :: '=' :: ' ' :: (written ++ '\n' :: rest))
      = some (.entry { parents := [], name := .ofList name } value :: statements) := by
  refine readLines_of_readLine (h.readLine_entry reads rest) ?_ later
  simp only [List.length_cons, List.length_append]
  omega

/-- The table of a document that does not start with a mark is what its statements make. -/
theorem ofText?_of_readLines {text : String} {draft : Draft}
    (noMark : text.toList.head? ≠ some '\uFEFF') (read : readLines text.toList = some statements)
    (made : statements.foldlM Draft.add {} = some draft) :
    Table.ofText? text = some draft.root := by
  unfold Table.ofText?
  dsimp only
  split
  · next eq =>
    rw [eq] at noMark
    exact absurd rfl noMark
  · rw [read]
    show (statements.foldlM Draft.add {}).bind _ = _
    rw [made]
    rfl

end Tabular.Toml
