import Tabular.Proofs.Toml.Document
import Tabular.Toml.Sections

/-!
# Sections are read as they were written

`Sections.WrittenAs` says which texts are written for sections of integers and texts. It fixes the
lines, but leaves open in which style a text is written. The lines of such a text are read as they
were written (`Sections.WrittenAs.readLines`), and carrying them out one by one makes the table of
the sections (`Sections.foldlM_statements`). So a text that is written for sections is read as their
table, whoever wrote it (`Sections.ofText?_of_writtenAs`).
-/

namespace Tabular.Toml

/-! ## Texts that are written for sections -/

/-- A text is written for a value: for an integer its decimal digits, and for a text the text in any
style that can hold it. -/
inductive Plain.WrittenAs : Plain → String → Prop
  | integer (n : Nat) : WrittenAs (.integer n) (toString n)
  | text {style : TextStyle} {s : String} (fits : style.Fits s.toList) :
    WrittenAs (.text s) (.ofList (writeStyled style s.toList))

/-- Lines are written for entries: one for each, with an equals sign behind the name. -/
inductive EntriesWrittenAs : List (String × Plain) → String → Prop
  | nil : EntriesWrittenAs [] ""
  | cons (name : String) {plain : Plain} {written rest : String} {entries : List (String × Plain)}
    (value : plain.WrittenAs written) (more : EntriesWrittenAs entries rest) :
    EntriesWrittenAs ((name, plain) :: entries) (name ++ " = " ++ written ++ "\n" ++ rest)

/-- A text is written for sections: each has a header above its entries, and a blank line stands
between two of them. -/
inductive Sections.WrittenAs : Sections → String → Prop
  | nil : WrittenAs [] ""
  | single (name : String) {entries : List (String × Plain)} {lines : String}
    (written : EntriesWrittenAs entries lines) :
    WrittenAs [(name, entries)] ("[" ++ name ++ "]\n" ++ lines)
  | cons (name : String) {entries : List (String × Plain)} {lines rest : String}
    {next : String × List (String × Plain)} {sections : Sections}
    (written : EntriesWrittenAs entries lines) (more : WrittenAs (next :: sections) rest) :
    WrittenAs ((name, entries) :: next :: sections) ("[" ++ name ++ "]\n" ++ lines ++ "\n" ++ rest)

/-- Different names that need no quotes. -/
def AreNames (names : List String) : Prop := names.Nodup ∧ ∀ name ∈ names, IsBare name.toList

instance (names : List String) : Decidable (AreNames names) := inferInstanceAs (Decidable (_ ∧ _))

/-- The sections have different names that need no quotes, and so have the entries of each. -/
structure Sections.WellNamed (sections : Sections) : Prop where
  names : AreNames (sections.map Prod.fst)
  entryNames : ∀ s ∈ sections, AreNames (s.2.map Prod.fst)

variable {name text rest written : String} {plain : Plain} {entries : List (String × Plain)}
  {sections : Sections} {later : List Statement}

/-- The names behind a name are names, and none of them is that one. -/
theorem AreNames.of_cons {names : List String} (h : AreNames (name :: names)) :
    IsBare name.toList ∧ AreNames names :=
  ⟨h.2 name List.mem_cons_self, (List.nodup_cons.1 h.1).2,
    fun other mem => h.2 other (List.mem_cons_of_mem name mem)⟩

/-- The sections behind a section are well named. -/
theorem Sections.WellNamed.of_cons (h : WellNamed ((name, entries) :: sections)) :
    IsBare name.toList ∧ AreNames (entries.map Prod.fst) ∧ WellNamed sections :=
  ⟨h.names.of_cons.1, h.entryNames _ List.mem_cons_self, h.names.of_cons.2,
    fun s mem => h.entryNames s (List.mem_cons_of_mem _ mem)⟩

/-! ## Reading the lines -/

/-- The statements of the lines of entries. -/
def entryStatements (entries : List (String × Plain)) : List Statement :=
  entries.map fun (name, plain) => .entry { parents := [], name } plain.value

/-- The statements of the lines of sections. -/
def Sections.statements (sections : Sections) : List Statement :=
  sections.flatMap fun (name, entries) =>
    .table { parents := [], name } :: entryStatements entries

/-- A value is read as it was written. -/
theorem Plain.WrittenAs.readsTo (h : plain.WrittenAs written) (small : plain.isWritable = true) :
    ReadsTo written.toList plain.value := by
  cases h with
  | integer n =>
    rw [Nat.toString_eq_repr, Nat.toList_repr]
    exact readsTo_toDigits (Nat.lt_succ_of_le (of_decide_eq_true small))
  | @text style s fits =>
    have reads := readsTo_writeStyled fits
    rw [String.ofList_toList] at reads
    rwa [String.toList_ofList]

/-- The lines of entries are read together with those below them. -/
theorem EntriesWrittenAs.readLines (h : EntriesWrittenAs entries text)
    (named : AreNames (entries.map Prod.fst)) (small : ∀ e ∈ entries, e.2.isWritable = true)
    {below : List Char} (read : Toml.readLines below = some later) :
    Toml.readLines (text.toList ++ below) = some (entryStatements entries ++ later) := by
  induction h with
  | nil => exact read
  | @cons name plain written rest entries value more ih =>
    obtain ⟨bare, named⟩ := named.of_cons
    have ih := ih named fun e mem => small e (List.mem_cons_of_mem _ mem)
    have line := bare.readLines_entry (value.readsTo (small _ List.mem_cons_self)) ih
    have shape : (name ++ " = " ++ written ++ "\n" ++ rest).toList ++ below
        = name.toList ++ ' ' :: '=' :: ' ' ::
          (written.toList ++ '\n' :: (rest.toList ++ below)) := by simp
    rw [shape, line, String.ofList_toList]
    rfl

/-- A header is read together with the lines below it. -/
theorem readLines_header (bare : IsBare name.toList) {below : List Char}
    (read : readLines below = some later) :
    readLines (("[" ++ name ++ "]\n").toList ++ below)
      = some (.table { parents := [], name } :: later) := by
  have line := bare.readLines_header read
  have shape : ("[" ++ name ++ "]\n").toList ++ below
      = '[' :: (name.toList ++ ']' :: '\n' :: below) := by simp
  rw [shape, line, String.ofList_toList]

/-- A document without lines has no statements. -/
theorem readLines_nil : readLines [] = some [] := by
  rw [readLines]
  rfl

/-- The lines of sections are read as they were written. -/
theorem Sections.WrittenAs.readLines (h : sections.WrittenAs text) (named : sections.WellNamed)
    (small : ∀ s ∈ sections, ∀ e ∈ s.2, e.2.isWritable = true) :
    Toml.readLines text.toList = some sections.statements := by
  induction h with
  | nil => exact readLines_nil
  | @single name entries lines written =>
    obtain ⟨bare, entryNames, -⟩ := named.of_cons
    have below := written.readLines entryNames (small _ List.mem_cons_self) readLines_nil
    rw [List.append_nil] at below
    rw [String.toList_append, readLines_header bare below]
    rfl
  | @cons name entries lines rest next sections written more ih =>
    obtain ⟨bare, entryNames, named⟩ := named.of_cons
    have later := readLines_blank (ih named fun s mem => small s (List.mem_cons_of_mem _ mem))
    have below := written.readLines entryNames (small _ List.mem_cons_self) later
    have shape : ("[" ++ name ++ "]\n" ++ lines ++ "\n" ++ rest).toList
        = ("[" ++ name ++ "]\n").toList ++ (lines.toList ++ '\n' :: rest.toList) := by simp
    rw [shape, readLines_header bare below]
    rfl

/-! ## Carrying out the statements -/

variable {before inner : Table} {value : Value}

/-- A name that no entry has is not found. -/
theorem lookup_eq_none (absent : name ∉ before.map Prod.fst) : before.lookup name = none := by
  rw [List.lookup_eq_none_iff]
  intro entry mem
  rw [bne_iff_ne]
  rintro rfl
  exact absent (List.mem_map_of_mem mem)

/-- Of different names, one behind others is none of them and may as well be the last of them. -/
theorem not_mem_and_nodup_of_cons {front behind : List String}
    (nodup : (front ++ name :: behind).Nodup) :
    name ∉ front ∧ (front ++ [name] ++ behind).Nodup := by
  refine ⟨fun mem => ?_, List.append_cons front name behind ▸ nodup⟩
  exact (List.nodup_append.1 nodup).2.2 _ mem _ List.mem_cons_self rfl

namespace Table

/-- Entries of other names stay in front. -/
theorem put_append (absent : name ∉ before.map Prod.fst) (t : Table) :
    put name value (before ++ t) = before ++ put name value t := by
  induction before with
  | nil => rfl
  | cons entry before ih =>
    rw [List.map_cons, List.mem_cons, not_or] at absent
    rw [List.cons_append, put, if_neg (Ne.symm absent.1), ih absent.2, List.cons_append]

/-- A new entry is the last. -/
theorem put_of_absent (absent : name ∉ before.map Prod.fst) :
    put name value before = before ++ [(name, value)] := by
  have last : put name value (before ++ []) = before ++ [(name, value)] := put_append absent []
  rwa [List.append_nil] at last

/-- A new header adds an empty table. -/
theorem define_of_absent (absent : name ∉ before.map Prod.fst) :
    define name before = some (before ++ [(name, .table .header [])]) := by
  rw [define, lookup_eq_none absent]
  exact congrArg some (put_of_absent absent)

/-- A new entry is added at the end. -/
theorem assign_of_absent (absent : name ∉ before.map Prod.fst) :
    assign name value [] before = some (before ++ [(name, value)]) := by
  rw [assign, lookup_eq_none absent]
  exact congrArg some (put_of_absent absent)

/-- The last table of a header is changed in its place. -/
theorem within_last (absent : name ∉ before.map Prod.fst) (change : Table → Option Table) :
    within change [name] (before ++ [(name, .table .header inner)])
      = (change inner).map fun inner => before ++ [(name, .table .header inner)] := by
  have found : (before ++ [(name, Value.table .header inner)]).lookup name
      = some (.table .header inner) := by
    rw [List.lookup_append, lookup_eq_none absent, Option.none_or, List.lookup_cons_self]
  have replaced (value : Value) :
      put name value (before ++ [(name, .table .header inner)]) = before ++ [(name, value)] := by
    rw [put_append absent, put, if_pos rfl]
  rw [within, found]
  simp only [within, replaced]

end Table

/-- The lines of entries fill the table of the last header. -/
theorem foldlM_entryStatements (absent : name ∉ before.map Prod.fst)
    (nodup : (inner.map Prod.fst ++ entries.map Prod.fst).Nodup) :
    (entryStatements entries).foldlM Draft.add
        { root := before ++ [(name, .table .header inner)], current := [name] }
      = some { root := before ++ [(name, .table .header (inner ++ Sections.entryTable entries))],
               current := [name] } := by
  induction entries generalizing inner with
  | nil => simp [entryStatements, Sections.entryTable]
  | cons entry entries ih =>
    obtain ⟨entryName, plain⟩ := entry
    obtain ⟨new, nodup⟩ := not_mem_and_nodup_of_cons nodup
    have added : Draft.add { root := before ++ [(name, .table .header inner)], current := [name] }
          (.entry { parents := [], name := entryName } plain.value)
        = some { root := before ++ [(name, .table .header (inner ++ [(entryName, plain.value)]))],
                 current := [name] } := by
      rw [Draft.add, Table.within_last absent, Table.assign_of_absent new]
      rfl
    have nodup : ((inner ++ [(entryName, plain.value)]).map Prod.fst
        ++ entries.map Prod.fst).Nodup := by
      rwa [List.map_append]
    rw [entryStatements, List.map_cons, List.foldlM_cons, added]
    exact (ih nodup).trans (by simp [Sections.entryTable])

/-- The lines of sections add their tables. -/
theorem Sections.foldlM_statements {d : Draft}
    (nodup : (d.root.map Prod.fst ++ sections.map Prod.fst).Nodup)
    (entryNames : ∀ s ∈ sections, AreNames (s.2.map Prod.fst)) :
    ∃ current, sections.statements.foldlM Draft.add d
      = some { root := d.root ++ sections.table, current } := by
  induction sections generalizing d with
  | nil => exact ⟨d.current, by simp [statements, table]⟩
  | cons s sections ih =>
    obtain ⟨name, entries⟩ := s
    obtain ⟨absent, nodup⟩ := not_mem_and_nodup_of_cons nodup
    have added : Draft.add d (.table { parents := [], name })
        = some { root := d.root ++ [(name, .table .header [])], current := [name] } := by
      rw [Draft.add, Table.within, Table.define_of_absent absent]
      rfl
    have fresh : (([] : Table).map Prod.fst ++ entries.map Prod.fst).Nodup :=
      (entryNames _ List.mem_cons_self).1
    have filled := foldlM_entryStatements absent fresh
    have nodup : ((d.root ++ [(name, Value.table .header (entryTable entries))]).map Prod.fst
        ++ sections.map Prod.fst).Nodup := by
      rwa [List.map_append]
    obtain ⟨current, rest⟩ := ih (d := { root := _, current := [name] }) nodup
      fun s mem => entryNames s (List.mem_cons_of_mem _ mem)
    refine ⟨current, ?_⟩
    rw [statements, List.flatMap_cons, List.cons_append, List.foldlM_cons, added]
    show (entryStatements entries ++ statements sections).foldlM Draft.add _ = _
    rw [List.foldlM_append, filled]
    exact rest.trans (by simp [table])

/-! ## Documents -/

/-- The lines that are written for entries are such lines. -/
theorem writtenAs_writeEntries (entries : List (String × Plain)) :
    EntriesWrittenAs entries (Sections.writeEntries entries) := by
  induction entries with
  | nil => exact .nil
  | cons entry entries ih =>
    obtain ⟨name, value⟩ := entry
    have written : value.WrittenAs value.write := by
      cases value with
      | integer n => exact .integer n
      | text s => exact .text (TextStyle.fits_of s.toList)
    have lines : Sections.writeEntries ((name, value) :: entries)
        = name ++ " = " ++ value.write ++ "\n" ++ Sections.writeEntries entries := by
      rw [Sections.writeEntries, List.map_cons, String.join_cons]
      rfl
    rw [lines]
    exact .cons name written ih

/-- Sections without too large integers are written, and the text is such a text. -/
theorem Sections.exists_write (small : sections.isWritable = true) :
    ∃ text, sections.write = .ok text ∧ sections.WrittenAs text := by
  refine ⟨_, if_pos small, ?_⟩
  clear small
  induction sections with
  | nil => exact .nil
  | cons s sections ih =>
    have lines := writtenAs_writeEntries s.2
    cases sections with
    | nil =>
      rw [List.map_cons, List.map_nil, String.intercalate_singleton]
      exact .single s.1 lines
    | cons next sections =>
      rw [List.map_cons, List.map_cons, String.intercalate_cons_cons]
      exact .cons s.1 lines ih

/-- A text of sections starts with a bracket, if it is not empty. -/
theorem Sections.WrittenAs.head?_ne (h : sections.WrittenAs text) :
    text.toList.head? ≠ some '\uFEFF' := by
  cases h <;> simp

/-- No integer of sections is too large if each of them can be written. -/
theorem Sections.isWritable_of_mem (small : sections.isWritable = true)
    {s : String × List (String × Plain)} (mem : s ∈ sections) :
    ∀ e ∈ s.2, e.2.isWritable = true :=
  List.all_eq_true.1 (List.all_eq_true.1 small s mem)

/-- A text that is written for sections is read as their table. -/
theorem Sections.ofText?_of_writtenAs (h : sections.WrittenAs text) (named : sections.WellNamed)
    (small : sections.isWritable = true) : Table.ofText? text = some sections.table := by
  obtain ⟨current, made⟩ := foldlM_statements (d := {}) named.names.1 named.entryNames
  have read := h.readLines named fun s mem => isWritable_of_mem small mem
  exact ofText?_of_readLines h.head?_ne read made

end Tabular.Toml
