import Mathlib.Data.List.TakeDrop
import Tabular.Toml.Text

/-!
# Texts are read as they were written

A text that is written is read up to its end, in whatever style it is written
(`readText_writeStyled`). Between double quotes, every character is read as it was, escaped or not.
Over several lines, quotes may stand for themselves, and the reader looks for the end of the text
behind each of them. What keeps it from finding an end too early is that no more than two quotes
stand in a row (`closing?_of_leading`); a run at the end of the text is closed by its last three.
-/

namespace Tabular.Toml

variable {cs rest : List Char} {c d : Char} {multiline : Bool}

/-! ## Characters between double quotes -/

/-- The digits of a code point below 256. -/
theorem hexValue?_hexDigit : ∀ n < 16, hexValue? (hexDigit n) = some n := by decide

/-- A character with a control code has no other escape. -/
theorem toNat_lt_of_not_isPlain (control : ¬ isPlain c = true) : c.toNat < 128 := by
  simp only [isPlain, Bool.or_eq_true, Bool.and_eq_true, decide_eq_true_eq, bne_iff_ne] at control
  omega

/-- A letter behind a backslash is read as what it stands for. -/
theorem readBasic_unescape (letter : unescape? c = some d) (cs : List Char) :
    readBasic multiline .text ('\\' :: c :: cs)
      = (readBasic multiline .text cs).map (consText d) := by
  rw [readBasic, if_neg (by decide), if_pos rfl, readBasic, letter]

/-- A character that needs no escape is read as itself. -/
theorem readBasic_plain (plain : isPlain c = true) (notQuote : c ≠ '"') (notBackslash : c ≠ '\\')
    (cs : List Char) :
    readBasic multiline .text (c :: cs) = (readBasic multiline .text cs).map (consText c) := by
  rw [readBasic, if_neg notQuote, if_neg notBackslash, if_pos (by rw [plain]; rfl)]

/-- A code point is read digit by digit. -/
theorem readBasic_digit {missing value digit : Nat} (isDigit : hexValue? c = some digit)
    (more : 1 < missing) (cs : List Char) :
    readBasic multiline (.code missing value) (c :: cs)
      = readBasic multiline (.code (missing - 1) (16 * value + digit)) cs := by
  rw [readBasic, isDigit]
  exact if_neg (by omega)

/-- Four hexadecimal digits are read as the character with that code. -/
theorem readBasic_code (small : c.toNat < 256) (cs : List Char) :
    readBasic multiline .text
        ('\\' :: 'u' :: '0' :: '0' :: hexDigit (c.toNat / 16) :: hexDigit (c.toNat % 16) :: cs)
      = (readBasic multiline .text cs).map (consText c) := by
  have high := hexValue?_hexDigit (c.toNat / 16) (by omega)
  have low := hexValue?_hexDigit (c.toNat % 16) (by omega)
  have whole : 16 * (c.toNat / 16) + c.toNat % 16 = c.toNat := Nat.div_add_mod c.toNat 16
  have zero : hexValue? '0' = some 0 := by decide
  have valid : c.toNat.isValidChar := c.valid
  rw [readBasic, if_neg (by decide), if_pos rfl, readBasic]
  show readBasic multiline (.code 4 0) _ = _
  rw [readBasic_digit zero (by decide), readBasic_digit zero (by decide),
    readBasic_digit high (by decide), readBasic, low]
  show (if (16 * (16 * (16 * (16 * 0 + 0) + 0) + c.toNat / 16) + c.toNat % 16).isValidChar then _
    else none) = _
  rw [show 16 * (16 * (16 * 0 + 0) + 0) + c.toNat / 16 = c.toNat / 16 by omega, whole,
    if_pos valid, Char.ofNat_toNat]

/-- An escaped character is read as it was. -/
theorem readBasic_escape (notQuote : c ≠ '"') (cs : List Char) :
    readBasic multiline .text (escape c ++ cs)
      = (readBasic multiline .text cs).map (consText c) := by
  have ofCode {n : Nat} (code : c.toNat = n) : c = Char.ofNat n := by rw [← code, Char.ofNat_toNat]
  by_cases backslash : c = '\\'
  · subst backslash
    exact readBasic_unescape rfl cs
  unfold escape
  rw [if_neg backslash]
  split
  · next eq =>
    subst eq
    exact readBasic_unescape rfl cs
  split
  · next eq =>
    subst eq
    exact readBasic_unescape rfl cs
  split
  · next eq =>
    subst eq
    exact readBasic_unescape rfl cs
  split
  · next code =>
    obtain rfl := ofCode code
    exact readBasic_unescape rfl cs
  split
  · next code =>
    obtain rfl := ofCode code
    exact readBasic_unescape rfl cs
  split
  · next plain => exact readBasic_plain plain notQuote backslash cs
  · next control =>
    have small := toNat_lt_of_not_isPlain control
    exact readBasic_code (by omega) cs

/-- An escaped character starts with a backslash, or it stands for itself. -/
theorem exists_escape_cons (c : Char) :
    ∃ d more, escape c = d :: more ∧ (d = '\\' ∨ d = c ∧ c ≠ '\n' ∧ c ≠ '\r') := by
  unfold escape
  split
  · exact ⟨_, _, rfl, .inl rfl⟩
  split
  · exact ⟨_, _, rfl, .inl rfl⟩
  split
  · exact ⟨_, _, rfl, .inl rfl⟩
  next notLine =>
  split
  · exact ⟨_, _, rfl, .inl rfl⟩
  next notReturn =>
  split
  · exact ⟨_, _, rfl, .inl rfl⟩
  split
  · exact ⟨_, _, rfl, .inl rfl⟩
  split
  · exact ⟨_, _, rfl, .inr ⟨rfl, notLine, notReturn⟩⟩
  · exact ⟨_, _, rfl, .inl rfl⟩

/-- The inside of a text between double quotes starts with a quote or a line feed only where that
stands for itself, and never with a carriage return. -/
theorem exists_writeBasic_cons (multiline : Bool) (run : Nat) (c : Char) (cs : List Char) :
    ∃ d more, writeBasic multiline run (c :: cs) = d :: more ∧
      (d ≠ '"' ∨ multiline = true ∧ run < 2 ∧ c = '"') ∧ (d ≠ '\n' ∨ c = '\n') ∧ d ≠ '\r' := by
  rw [writeBasic]
  split
  · next quote =>
    split
    · next itself =>
      rw [Bool.and_eq_true, decide_eq_true_eq] at itself
      exact ⟨_, _, rfl, .inr ⟨itself.1, itself.2, quote⟩, .inl (by decide), by decide⟩
    · exact ⟨_, _, rfl, .inl (by decide), .inl (by decide), by decide⟩
  · next notQuote =>
    split
    · next line =>
      rw [Bool.and_eq_true, decide_eq_true_eq] at line
      exact ⟨_, _, rfl, .inl (by decide), .inr line.2, by decide⟩
    · obtain ⟨d, more, eq, rfl | ⟨rfl, notLine, notReturn⟩⟩ := exists_escape_cons c
      · exact ⟨_, _, congrArg (· ++ _) eq, .inl (by decide), .inl (by decide), by decide⟩
      · exact ⟨_, _, congrArg (· ++ _) eq, .inl notQuote, .inl notLine, notReturn⟩

/-! ## Runs of quotes -/

section Runs

variable {quote : Char}

/-- The number of quotes at the start. -/
def leading (quote : Char) (cs : List Char) : Nat := (cs.takeWhile (· == quote)).length

/-- One more quote in front makes the run longer. -/
theorem leading_cons_self (quote : Char) (cs : List Char) :
    leading quote (quote :: cs) = leading quote cs + 1 := by
  unfold leading
  rw [List.takeWhile_cons, if_pos (beq_self_eq_true quote), List.length_cons]

/-- Another character in front ends the run at once. -/
theorem leading_cons_of_ne (ne : c ≠ quote) (cs : List Char) : leading quote (c :: cs) = 0 := by
  unfold leading
  rw [List.takeWhile_cons, if_neg (beq_iff_eq.not.2 ne), List.length_nil]

/-- There is no run where no quote comes next. -/
theorem leading_eq_zero (next : rest.head? ≠ some quote) : leading quote rest = 0 := by
  cases rest with
  | nil => rfl
  | cons c rest => exact leading_cons_of_ne (fun eq => next (congrArg some eq)) rest

/-- A run in front of another run makes one run. -/
theorem leading_replicate_append (quote : Char) (k : Nat) (rest : List Char) :
    leading quote (List.replicate k quote ++ rest) = k + leading quote rest := by
  have all : ∀ c ∈ List.replicate k quote, (c == quote) = true := fun c mem =>
    beq_iff_eq.2 (List.eq_of_mem_replicate mem)
  unfold leading
  rw [List.takeWhile_append_of_pos all, List.length_append, List.length_replicate]

/-- Quotes up to another character, or quotes only. -/
theorem leading_append (cs rest : List Char) :
    leading quote (cs ++ rest) = leading quote cs ∨
      cs = List.replicate (leading quote cs) quote := by
  induction cs with
  | nil => exact .inr rfl
  | cons c cs ih =>
    by_cases eq : c = quote
    · subst eq
      rw [List.cons_append, leading_cons_self, leading_cons_self]
      refine ih.imp (congrArg (· + 1)) fun all => ?_
      rw [List.replicate_succ, ← all]
    · rw [List.cons_append, leading_cons_of_ne eq, leading_cons_of_ne eq]
      exact .inl rfl

/-- With fewer than two quotes more there is no end of the text. -/
theorem closing?_eq_none (few : leading quote cs < 2) : closing? quote cs = none := if_pos few

/-- Up to two quotes that end a text are told from those that close it. -/
theorem closing?_replicate (next : rest.head? ≠ some quote) {k : Nat} (few : k ≤ 2) :
    closing? quote (List.replicate (k + 2) quote ++ rest)
      = some (List.replicate k quote, rest) := by
  have run : leading quote (List.replicate (k + 2) quote ++ rest) = k + 2 := by
    rw [leading_replicate_append, leading_eq_zero next, Nat.add_zero]
  unfold leading at run
  unfold closing?
  rw [run]
  dsimp only
  have extra : min (k + 2) 4 - 2 = k := by omega
  have drop : (List.replicate (k + 2) quote ++ rest).drop (2 + k) = rest := by
    rw [Nat.add_comm 2 k, List.drop_left' List.length_replicate]
  rw [if_neg (by omega), extra, drop]

/-- Behind a quote that stands for itself, the text is closed only where it ends. -/
theorem closing?_of_leading (next : rest.head? ≠ some quote) (few : leading quote cs < 2) :
    closing? quote (cs ++ quote :: quote :: quote :: rest) = none ∨
      closing? quote (cs ++ quote :: quote :: quote :: rest) = some (quote :: cs, rest) ∧
        ∀ c ∈ cs, c = quote := by
  -- A run of quotes reaches the closing ones only if there is nothing else in front of them.
  rcases leading_append cs (quote :: quote :: quote :: rest) with same | all
  · exact .inl (closing?_eq_none (same ▸ few))
  · generalize leading quote cs = k at all few
    subst all
    refine .inr ⟨?_, fun c mem => List.eq_of_mem_replicate mem⟩
    have closed := closing?_replicate next (k := k + 1) (by omega)
    have quotes : List.replicate k quote ++ quote :: quote :: quote :: rest
        = List.replicate (k + 1 + 2) quote ++ rest := by
      rw [Nat.add_assoc, List.replicate_append_replicate.symm, List.append_assoc]
      rfl
    rw [quotes, closed]
    rfl

end Runs

/-! ## Between double quotes -/

/-- A text on one line is closed by the first quote without a backslash. -/
theorem readBasic_writeBasic (run : Nat) (cs rest : List Char) :
    readBasic false .text (writeBasic false run cs ++ '"' :: rest) = some (cs, rest) := by
  induction cs generalizing run with
  | nil => rfl
  | cons c cs ih =>
    rw [writeBasic]
    split
    · next quote =>
      subst quote
      show readBasic false .text ('\\' :: '"' :: (writeBasic false 0 cs ++ '"' :: rest)) = _
      rw [readBasic_unescape rfl, ih]
      rfl
    · next notQuote =>
      show readBasic false .text (escape c ++ writeBasic false 0 cs ++ '"' :: rest) = _
      rw [List.append_assoc, readBasic_escape notQuote, ih]
      rfl

/-- A quote stands for itself behind fewer than two others. -/
theorem writeBasic_quote {run : Nat} (few : run < 2) (cs : List Char) :
    writeBasic true run ('"' :: cs) = '"' :: writeBasic true (run + 1) cs := by
  rw [writeBasic, if_pos rfl, if_pos (by rw [decide_eq_true few]; rfl)]

/-- A quote that is behind others makes two of them at most. -/
theorem leading_writeBasic {run : Nat} (few : run ≤ 2) (cs : List Char) :
    run + leading '"' (writeBasic true run cs) ≤ 2 := by
  induction cs generalizing run with
  | nil => exact few
  | cons c cs ih =>
    by_cases itself : run < 2 ∧ c = '"'
    · obtain ⟨more, rfl⟩ := itself
      have later : run + 1 + leading '"' (writeBasic true (run + 1) cs) ≤ 2 := ih more
      rw [writeBasic_quote more, leading_cons_self]
      omega
    · obtain ⟨d, more, eq, quote, -⟩ := exists_writeBasic_cons true run c cs
      rw [eq, leading_cons_of_ne (quote.resolve_right fun other => itself other.2)]
      exact few

/-- A text of which only quotes are written consists of them. -/
theorem writeBasic_of_all_quotes {run : Nat} {cs : List Char}
    (all : ∀ c ∈ writeBasic true run cs, c = '"') : writeBasic true run cs = cs := by
  induction cs generalizing run with
  | nil => rfl
  | cons c cs ih =>
    obtain ⟨d, more, eq, quote, -⟩ := exists_writeBasic_cons true run c cs
    have first : d = '"' := all d (by rw [eq]; exact List.mem_cons_self)
    obtain ⟨-, few, rfl⟩ := quote.resolve_left (absurd first)
    rw [writeBasic_quote few] at all ⊢
    rw [ih fun c mem => all c (List.mem_cons_of_mem _ mem)]

/-- Over several lines, a quote may be the first of those that close the text. -/
theorem readBasic_quote (cs : List Char) :
    readBasic true .text ('"' :: cs)
      = (closing? '"' cs).or ((readBasic true .text cs).map (consText '"')) := by
  rw [readBasic, if_pos rfl, if_pos rfl]

/-- A quote that stands for itself is read as one, though the reader looks for the end of the text
behind it. -/
theorem readBasic_writeBasic_quote (next : rest.head? ≠ some '"') {run : Nat} (few : run < 2)
    (later : readBasic true .text (writeBasic true (run + 1) cs ++ '"' :: '"' :: '"' :: rest)
      = some (cs, rest)) :
    readBasic true .text ('"' :: (writeBasic true (run + 1) cs ++ '"' :: '"' :: '"' :: rest))
      = some ('"' :: cs, rest) := by
  have leads : run + 1 + leading '"' (writeBasic true (run + 1) cs) ≤ 2 :=
    leading_writeBasic few cs
  have fewer : leading '"' (writeBasic true (run + 1) cs) < 2 := by omega
  rw [readBasic_quote]
  rcases closing?_of_leading next fewer with open' | ⟨closed, all⟩
  · rw [open', Option.none_or, later]
    rfl
  · rw [closed, writeBasic_of_all_quotes all]
    rfl

/-- A text over several lines is closed by the last three quotes of a run. -/
theorem readBasic_writeBasic_lines (next : rest.head? ≠ some '"') {run : Nat} (few : run ≤ 2)
    (cs : List Char) :
    readBasic true .text (writeBasic true run cs ++ '"' :: '"' :: '"' :: rest)
      = some (cs, rest) := by
  induction cs generalizing run with
  | nil =>
    have closed := closing?_replicate next (k := 0) (by decide)
    show readBasic true .text ('"' :: (List.replicate 2 '"' ++ rest)) = _
    rw [readBasic_quote, closed]
    rfl
  | cons c cs ih =>
    rw [writeBasic]
    split
    · next quote =>
      subst quote
      split
      · next itself =>
        rw [Bool.and_eq_true, decide_eq_true_eq] at itself
        exact readBasic_writeBasic_quote next itself.2 (ih itself.2)
      · show readBasic true .text
          ('\\' :: '"' :: (writeBasic true 0 cs ++ '"' :: '"' :: '"' :: rest)) = _
        rw [readBasic_unescape rfl, ih (Nat.zero_le 2)]
        rfl
    · next notQuote =>
      split
      · next line =>
        rw [Bool.and_eq_true, decide_eq_true_eq] at line
        obtain ⟨-, rfl⟩ := line
        rw [List.cons_append, readBasic, if_neg (by decide), if_neg (by decide), if_pos (by decide),
          ih (Nat.zero_le 2)]
        rfl
      · rw [List.append_assoc, readBasic_escape notQuote, ih (Nat.zero_le 2)]
        rfl

/-! ## Between apostrophes -/

/-- Between apostrophes, characters stand for themselves. -/
theorem readLiteral_eq (plain : ∀ c ∈ cs, isPlain c = true ∧ c ≠ apostrophe) :
    readLiteral (cs ++ apostrophe :: rest) = some (cs, rest) := by
  have inside : ∀ c ∈ cs, (isPlain c && c != apostrophe) = true := fun c mem => by
    rw [Bool.and_eq_true, bne_iff_ne]
    exact plain c mem
  unfold readLiteral
  rw [List.span_eq_takeWhile_dropWhile, List.takeWhile_append_of_pos inside,
    List.dropWhile_append_of_pos inside, List.takeWhile_cons_of_neg (by decide),
    List.dropWhile_cons_of_neg (by decide), List.append_nil]
  exact if_pos rfl

/-- What the longest run of a character is counted with: the run at the start and the longest one
further on. -/
def countRun (quote c : Char) (counts : Nat × Nat) : Nat × Nat :=
  if c = quote then (counts.1 + 1, max counts.2 (counts.1 + 1)) else (0, counts.2)

/-- The longest run is counted from the end, together with the run at the start. -/
theorem longestRun_eq (quote : Char) (cs : List Char) :
    longestRun quote cs = (cs.foldr (countRun quote) (0, 0)).2 ∧
      (cs.foldr (countRun quote) (0, 0)).1 = leading quote cs ∧
      leading quote cs ≤ (cs.foldr (countRun quote) (0, 0)).2 := by
  have counted : (cs.foldr (countRun quote) (0, 0)).1 = leading quote cs ∧
      leading quote cs ≤ (cs.foldr (countRun quote) (0, 0)).2 := by
    induction cs with
    | nil => exact ⟨rfl, Nat.le_refl _⟩
    | cons c cs ih =>
      rw [List.foldr_cons]
      unfold countRun
      split
      · next eq =>
        rw [eq, leading_cons_self]
        exact ⟨congrArg (· + 1) ih.1, by rw [← ih.1]; exact Nat.le_max_right _ _⟩
      · next ne =>
        rw [leading_cons_of_ne ne]
        exact ⟨rfl, Nat.zero_le _⟩
  refine ⟨?_, counted⟩
  show max (cs.foldr (countRun quote) (0, 0)).1 (cs.foldr (countRun quote) (0, 0)).2 = _
  rw [counted.1]
  exact Nat.max_eq_right counted.2

/-- The run at the start is not longer than the longest one. -/
theorem leading_le_longestRun (quote : Char) (cs : List Char) :
    leading quote cs ≤ longestRun quote cs := by
  obtain ⟨eq, -, le⟩ := longestRun_eq quote cs
  exact eq ▸ le

/-- One more character in front makes no run shorter. -/
theorem longestRun_le_cons (quote c : Char) (cs : List Char) :
    longestRun quote cs ≤ longestRun quote (c :: cs) := by
  rw [(longestRun_eq quote cs).1, (longestRun_eq quote (c :: cs)).1, List.foldr_cons]
  unfold countRun
  split
  · exact Nat.le_max_left _ _
  · exact Nat.le_refl _

/-- A character of which there is no run does not occur. -/
theorem ne_of_longestRun_eq_zero {quote : Char} (none : longestRun quote cs = 0) :
    ∀ c ∈ cs, c ≠ quote := by
  induction cs with
  | nil => nofun
  | cons c cs ih =>
    have first := leading_le_longestRun quote (c :: cs)
    have rest := longestRun_le_cons quote c cs
    intro d mem
    rcases List.mem_cons.1 mem with rfl | mem
    · rintro rfl
      rw [leading_cons_self] at first
      omega
    · exact ih (by omega) d mem

/-- A text over several lines without escapes is closed by the last three apostrophes of a run. -/
theorem readLiteralLines_eq (next : rest.head? ≠ some apostrophe)
    (short : longestRun apostrophe cs ≤ 2) (plain : ∀ c ∈ cs, isPlain c = true ∨ c = '\n') :
    readLiteralLines (cs ++ apostrophe :: apostrophe :: apostrophe :: rest) = some (cs, rest) := by
  induction cs with
  | nil =>
    have closed := closing?_replicate next (k := 0) (by decide)
    rw [List.nil_append, readLiteralLines, if_pos rfl]
    show (closing? apostrophe (List.replicate 2 apostrophe ++ rest)).or _ = _
    rw [closed]
    rfl
  | cons c cs ih =>
    have leads := leading_le_longestRun apostrophe (c :: cs)
    have later := ih (Nat.le_trans (longestRun_le_cons apostrophe c cs) short)
      fun d mem => plain d (List.mem_cons_of_mem c mem)
    rw [List.cons_append, readLiteralLines]
    split
    · next quote =>
      subst quote
      -- One apostrophe is in front, so at most one more follows it.
      rw [leading_cons_self] at leads
      have fewer : leading apostrophe cs < 2 := by omega
      rcases closing?_of_leading next fewer with open' | ⟨closed, -⟩
      · rw [open', Option.none_or, later]
        rfl
      · rw [closed]
        rfl
    · rw [if_pos (plain c List.mem_cons_self), later]
      rfl

/-! ## Every style -/

/-- A style in which a text can be written. With escapes every text can. -/
def TextStyle.Fits : TextStyle → List Char → Prop
  | basic, _ | basicLines, _ => True
  | literal, cs => cs ≠ [] ∧ ∀ c ∈ cs, isPlain c = true ∧ c ≠ apostrophe
  | literalLines, cs =>
    longestRun apostrophe cs ≤ 2 ∧ ∀ c ∈ cs, isPlain c = true ∨ c = '\n'

/-- Without control characters, every character is plain or a line feed. -/
theorem plain_of_no_controls (none : (cs.any fun c => !isPlain c && c != '\n') = false) :
    ∀ c ∈ cs, isPlain c = true ∨ c = '\n' := by
  intro c mem
  have := List.any_eq_false.1 none c mem
  rw [Bool.and_eq_true, Bool.not_eq_true', bne_iff_ne, not_and_or, Bool.not_eq_false, not_not] at this
  exact this

/-- The writer takes a style that fits. -/
theorem TextStyle.fits_of (cs : List Char) : (TextStyle.of cs).Fits cs := by
  unfold TextStyle.of
  dsimp only
  split
  · trivial
  · next notBasic =>
    split
    · next literal =>
      rw [Bool.and_eq_true, Bool.and_eq_true, Bool.not_eq_true', Bool.not_eq_true', beq_iff_eq]
        at literal
      obtain ⟨⟨controls, apostrophes⟩, lines⟩ := literal
      refine ⟨?_, fun c mem => ⟨?_, ne_of_longestRun_eq_zero apostrophes c mem⟩⟩
      · rintro rfl
        exact notBasic rfl
      · refine (plain_of_no_controls controls c mem).resolve_right ?_
        rintro rfl
        rw [List.contains_iff_mem.2 mem] at lines
        cases lines
    split
    · trivial
    split
    · next literalLines =>
      rw [Bool.and_eq_true, Bool.not_eq_true', decide_eq_true_eq] at literalLines
      exact ⟨literalLines.2, plain_of_no_controls literalLines.1⟩
    · split <;> trivial

/-- What stands between three quotes starts with a line feed only if the text has one, and not with
a carriage return. -/
def KeepsStart (cs inside : List Char) : Prop :=
  ∀ d more, inside = d :: more → (d ≠ '\n' ∨ '\n' ∈ cs) ∧ d ≠ '\r'

/-- A line end is left out at the start of a text over several lines where one was put. -/
theorem dropLineEnd_start {inside : List Char} (first : KeepsStart cs inside) :
    dropLineEnd ((if cs.contains '\n' then ['\n'] else []) ++ inside) = inside := by
  split
  · rfl
  · next noLines =>
    rw [List.contains_iff_mem] at noLines
    rw [List.nil_append]
    unfold dropLineEnd
    split
    · next more => exact absurd rfl ((first _ _ rfl).1.resolve_right noLines)
    · exact absurd rfl (first _ _ rfl).2
    · rfl

/-- What is written between three double quotes keeps its start. -/
theorem keepsStart_writeBasic (cs rest : List Char) :
    KeepsStart cs (writeBasic true 0 cs ++ '"' :: rest) := by
  intro d more eq
  cases cs with
  | nil =>
    obtain ⟨rfl, -⟩ := List.cons.inj eq
    exact ⟨.inl (by decide), by decide⟩
  | cons c cs =>
    obtain ⟨d', inside, written, -, line, notReturn⟩ := exists_writeBasic_cons true 0 c cs
    rw [written] at eq
    obtain ⟨rfl, -⟩ := List.cons.inj eq
    refine ⟨line.imp_right fun eq => ?_, notReturn⟩
    rw [eq]
    exact List.mem_cons_self

/-- What stands between three apostrophes keeps its start. -/
theorem keepsStart_literal (plain : ∀ c ∈ cs, isPlain c = true ∨ c = '\n') (rest : List Char) :
    KeepsStart cs (cs ++ apostrophe :: rest) := by
  intro d more eq
  have ne {other : Char} (control : isPlain other = false) (plain : isPlain d = true) :
      d ≠ other := by
    rintro rfl
    rw [plain] at control
    cases control
  cases cs with
  | nil =>
    obtain ⟨rfl, -⟩ := List.cons.inj eq
    exact ⟨.inl (by decide), by decide⟩
  | cons c cs =>
    obtain ⟨rfl, -⟩ := List.cons.inj eq
    rcases plain c List.mem_cons_self with plain | rfl
    · exact ⟨.inl (ne (by decide) plain), ne (by decide) plain⟩
    · exact ⟨.inr List.mem_cons_self, by decide⟩

/-- Fewer than three quotes do not open a text over several lines. -/
theorem readText_of_single {quote : Char} (single : ∀ more, cs ≠ quote :: quote :: more) :
    readText (quote :: cs) = readLineText (quote :: cs) := by
  unfold readText
  split
  · next a b c more eq =>
    obtain ⟨rfl, rfl⟩ := List.cons.inj eq
    have other : ∀ d, [quote, b, c] ≠ [d, d, d] := by
      intro d same
      simp only [List.cons.injEq, and_true] at same
      obtain ⟨rfl, rfl, rfl⟩ := same
      exact single more rfl
    rw [if_neg (other '"'), if_neg (other apostrophe)]
  · rfl

/-- A text between double quotes is read as it was written. -/
theorem readText_basic (next : rest.head? ≠ some '"') (cs : List Char) :
    readText (writeStyled .basic cs ++ rest) = some (cs, rest) := by
  have shape : writeStyled .basic cs ++ rest = '"' :: (writeBasic false 0 cs ++ '"' :: rest) := by
    simp [writeStyled]
  have single : ∀ more, writeBasic false 0 cs ++ '"' :: rest ≠ '"' :: '"' :: more := by
    intro more eq
    cases cs with
    | nil =>
      obtain ⟨-, rfl⟩ := List.cons.inj eq
      exact next rfl
    | cons c cs =>
      obtain ⟨d, inside, written, quote, -⟩ := exists_writeBasic_cons false 0 c cs
      rw [written] at eq
      exact quote.elim (fun ne => ne (List.cons.inj eq).1) fun itself => nomatch itself.1
  rw [shape, readText_of_single single]
  exact readBasic_writeBasic 0 cs rest

/-- A text between apostrophes is read as it was written. -/
theorem readText_literal (notEmpty : cs ≠ [])
    (plain : ∀ c ∈ cs, isPlain c = true ∧ c ≠ apostrophe) (rest : List Char) :
    readText (writeStyled .literal cs ++ rest) = some (cs, rest) := by
  have shape : writeStyled .literal cs ++ rest = apostrophe :: (cs ++ apostrophe :: rest) := by
    simp [writeStyled]
  have single : ∀ more, cs ++ apostrophe :: rest ≠ apostrophe :: apostrophe :: more := by
    intro more eq
    cases cs with
    | nil => exact notEmpty rfl
    | cons c cs => exact (plain c List.mem_cons_self).2 (List.cons.inj eq).1
  rw [shape, readText_of_single single]
  exact readLiteral_eq plain

/-- A text between three double quotes is read as it was written. -/
theorem readText_basicLines (next : rest.head? ≠ some '"') (cs : List Char) :
    readText (writeStyled .basicLines cs ++ rest) = some (cs, rest) := by
  have shape : writeStyled .basicLines cs ++ rest = '"' :: '"' :: '"' ::
      ((if cs.contains '\n' then ['\n'] else [])
        ++ (writeBasic true 0 cs ++ '"' :: '"' :: '"' :: rest)) := by
    simp [writeStyled]
  rw [shape, readText, if_pos rfl, dropLineEnd_start (keepsStart_writeBasic cs _)]
  exact readBasic_writeBasic_lines next (Nat.zero_le 2) cs

/-- A text between three apostrophes is read as it was written. -/
theorem readText_literalLines (next : rest.head? ≠ some apostrophe)
    (short : longestRun apostrophe cs ≤ 2) (plain : ∀ c ∈ cs, isPlain c = true ∨ c = '\n') :
    readText (writeStyled .literalLines cs ++ rest) = some (cs, rest) := by
  have shape : writeStyled .literalLines cs ++ rest = apostrophe :: apostrophe :: apostrophe ::
      ((if cs.contains '\n' then ['\n'] else [])
        ++ (cs ++ apostrophe :: apostrophe :: apostrophe :: rest)) := by
    simp [writeStyled]
  rw [shape, readText, if_neg (by decide), if_pos rfl,
    dropLineEnd_start (keepsStart_literal plain _)]
  exact readLiteralLines_eq next short plain

/-- A text is read in the style in which it was written, up to its end. -/
theorem readText_writeStyled {style : TextStyle} (fits : style.Fits cs)
    (next : rest.head? ≠ some '"' ∧ rest.head? ≠ some apostrophe) :
    readText (writeStyled style cs ++ rest) = some (cs, rest) := by
  cases style with
  | basic => exact readText_basic next.1 cs
  | literal => exact readText_literal fits.1 fits.2 rest
  | basicLines => exact readText_basicLines next.1 cs
  | literalLines => exact readText_literalLines next.2 fits.1 fits.2

end Tabular.Toml
