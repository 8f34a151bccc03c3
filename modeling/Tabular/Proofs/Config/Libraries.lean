import Tabular.Config.Libraries
import Tabular.Proofs.Toml.Sections

/-!
# What is relied on of the libraries

`Libraries.Spec` states what the libraries must do for a configuration to survive its document, each
by itself: the writer writes by the rules of documents, the reader reads by them, the upper layer
wins, and a configuration is made of the values that are given. The rules are
`Toml.Sections.WrittenAs` for what is written and `Toml.Table.ofText?` for what is read; nothing is
said about texts that break a rule, or about other values than integers and texts.
`Libraries.own_spec` shows that the libraries that the program runs with are such.
-/

namespace Tabular.Config

open Toml (Plain Sections)

/-! ## What a layer gives for a setting -/

/-- The value of a setting in a configuration. -/
def valueOf (c : Config) : Setting → Plain
  | .rowCapacity => .integer c.rowCapacity
  | .columnCapacity => .integer c.columnCapacity
  | .level => .text c.level
  | .format => .text c.format

/-- What the sections of a document say about a setting. -/
def sectionsValue? (sections : Sections) (s : Setting) : Option Plain :=
  (sections.lookup s.sectionName).bind (·.lookup s.name)

/-- What a layer says about the section of a setting. -/
def Layer.sectionOf (layer : Layer) : Setting → Option Section
  | .rowCapacity | .columnCapacity => layer.storage
  | .level | .format => layer.logging

/-- A value that is given is an integer, of either kind, or a text. -/
inductive Given.Is : Given → Plain → Prop
  | signed (n : Nat) : Is (.signed n) (.integer n)
  | unsigned (n : Nat) : Is (.unsigned n) (.integer n)
  | text (s : String) : Is (.text s) (.text s)

/-- A layer gives a value for a setting in a table. -/
def Layer.Gives (layer : Layer) (s : Setting) (value : Plain) : Prop :=
  ∃ entries given origin, layer.sectionOf s = some (.table entries) ∧
    entries.lookup s.name = some (given, origin) ∧ given.Is value

/-- No entry stands for its whole table. -/
def NoneReserved (sections : Sections) : Prop :=
  ∀ s ∈ sections, ∀ e ∈ s.2, e.1 ≠ valueEntry ∧ e.1 ≠ reservedEntry

/-! ## The specification -/

/-- What is relied on of the libraries. -/
structure Libraries.Spec (lib : Libraries) : Prop where
  /-- A document of which all integers are small enough is written by the rules. -/
  writes : ∀ sections : Sections, sections.WellNamed → sections.isWritable = true →
    ∃ text, lib.write sections = .ok text ∧ sections.WrittenAs text
  /-- A document with an integer that is too large is not written. -/
  refuses : ∀ sections : Sections, sections.isWritable = false →
    ∃ reason, lib.write sections = .error reason
  /-- A text that is a document of sections says what their entries say. -/
  reads : ∀ (origin : Origin) (text : String) (sections : Sections), NoneReserved sections →
    Toml.Table.ofText? text = some sections.table →
    ∃ layer, lib.ofToml origin text = .ok layer ∧
      ∀ s value, sectionsValue? sections s = some value → layer.Gives s value
  /-- What the upper layer gives counts. -/
  merges : ∀ (upper lower : Layer) (s : Setting) (value : Plain), upper.Gives s value →
    (lib.merge upper lower).Gives s value
  /-- A configuration is made of the values that are given for its settings. -/
  extracts : ∀ (layer : Layer) (c : Config), (∀ s, layer.Gives s (c.valueOf s)) →
    lib.extract layer = .ok c

/-! ## The libraries of the program -/

section Own

variable {sections : Sections} {layer : Layer} {c : Config} {origin : Origin}

/-- A value is looked up behind a change of all values. -/
theorem lookup_map_snd {α β : Type} (f : α → β) (entries : List (String × α)) (name : String) :
    (entries.map fun (name, value) => (name, f value)).lookup name
      = (entries.lookup name).map f := by
  induction entries with
  | nil => rfl
  | cons entry entries ih =>
    obtain ⟨other, value⟩ := entry
    rw [List.map_cons, List.lookup_cons, List.lookup_cons, ih]
    cases name == other <;> rfl

/-- Integers and texts stand for themselves, and so does a table in which no entry is special. -/
theorem resolveEntries_entryTable {entries : List (String × Plain)}
    (usual : ∀ e ∈ entries, e.1 ≠ reservedEntry) :
    resolveEntries (Sections.entryTable entries) = some (Sections.entryTable entries) := by
  induction entries with
  | nil => rfl
  | cons entry entries ih =>
    obtain ⟨name, value⟩ := entry
    have ih := ih fun e mem => usual e (List.mem_cons_of_mem _ mem)
    have resolved : resolve value.value = some value.value := by cases value <;> rfl
    unfold Sections.entryTable at ih ⊢
    rw [List.map_cons, resolveEntries, if_neg (usual _ List.mem_cons_self), resolved, ih]
    rfl

/-- A document of sections in which no entry is special is resolved to itself. -/
theorem resolveDocument_table (usual : NoneReserved sections) :
    resolveDocument sections.table = some sections.table := by
  induction sections with
  | nil => rfl
  | cons s sections ih =>
    obtain ⟨name, entries⟩ := s
    have usualEntries := usual _ List.mem_cons_self
    have resolved := resolveEntries_entryTable fun e mem => (usualEntries e mem).2
    have itself : standingFor (Sections.entryTable entries)
        = .table .header (Sections.entryTable entries) := by
      have absent : (Sections.entryTable entries).lookup valueEntry = none := by
        refine Toml.lookup_eq_none fun mem => ?_
        rw [Sections.entryTable, List.map_map, List.mem_map] at mem
        obtain ⟨e, mem, name⟩ := mem
        exact (usualEntries e mem).1 name
      rw [standingFor, absent]
      rfl
    have section_ : resolve (.table .header (Sections.entryTable entries))
        = some (.table .header (Sections.entryTable entries)) := by
      rw [resolve, resolved, Option.map_some, itself]
    have ih := ih fun s mem => usual s (List.mem_cons_of_mem _ mem)
    unfold resolveDocument Sections.table at ih ⊢
    rw [List.map_cons, List.mapM_cons, ih]
    dsimp only
    rw [section_]
    rfl

/-- The value of an integer or a text is given as it is. -/
theorem is_ofToml (p : Plain) : (Given.ofToml p.value).Is p := by
  cases p with
  | integer n => exact .signed n
  | text s => exact .text s

/-- The layer of a document of sections gives what their entries say. -/
theorem Layer.gives_ofToml {s : Setting} {p : Plain} (found : sectionsValue? sections s = some p) :
    (Layer.ofToml origin sections.table).Gives s p := by
  obtain ⟨entries, section_, entry⟩ := Option.bind_eq_some_iff.1 found
  have table : sections.table.lookup s.sectionName
      = some (.table .header (Sections.entryTable entries)) :=
    (lookup_map_snd (fun entries => Toml.Value.table .header (Sections.entryTable entries)) sections
      s.sectionName).trans (congrArg _ section_)
  have given : ((Sections.entryTable entries).map fun entry =>
      (entry.1, Given.ofToml entry.2, origin)).lookup s.name = some (.ofToml p.value, origin) := by
    have value := (lookup_map_snd Plain.value entries s.name).trans (congrArg _ entry)
    exact (lookup_map_snd (fun value => (Given.ofToml value, origin)) _ _).trans
      (congrArg _ value)
  refine ⟨_, _, origin, ?_, given, is_ofToml p⟩
  have ofSection : (sections.table.lookup s.sectionName).map (Section.ofToml origin)
      = some (.table ((Sections.entryTable entries).map fun entry =>
          (entry.1, .ofToml entry.2, origin))) := by
    rw [table]
    rfl
  cases s <;> exact ofSection

/-- A section of a layer over another is the section over that of the other. -/
theorem Layer.sectionOf_overlay (upper lower : Layer) (s : Setting) :
    (upper.overlay lower).sectionOf s
      = overlaySection (upper.sectionOf s) (lower.sectionOf s) := by
  cases s <;> rfl

/-- A layer over another gives what it gave. -/
theorem Layer.gives_overlay {upper : Layer} {s : Setting} {p : Plain} (h : upper.Gives s p)
    (lower : Layer) : (upper.overlay lower).Gives s p := by
  obtain ⟨entries, given, origin, table, found, is⟩ := h
  have kept : ∀ below : Option Section, ∃ more,
      overlaySection (some (.table entries)) below = some (.table (entries ++ more)) := by
    intro below
    rcases below with - | ⟨⟨lowerEntries⟩ | - | -⟩
    · exact ⟨[], by rw [List.append_nil]; rfl⟩
    · exact ⟨lowerEntries, rfl⟩
    · exact ⟨[], by rw [List.append_nil]; rfl⟩
    · exact ⟨[], by rw [List.append_nil]; rfl⟩
  obtain ⟨more, overlaid⟩ := kept (lower.sectionOf s)
  refine ⟨_, given, origin, (sectionOf_overlay upper lower s).trans (table ▸ overlaid), ?_, is⟩
  rw [List.lookup_append, found]
  rfl

/-- A size that is given is read. -/
theorem readSize_of_is {given : Given} {n : Nat} (is : given.Is (.integer n)) (place : Place) :
    readSize place given = .ok n := by
  cases is with
  | signed =>
    rw [readSize, if_pos (Int.natCast_nonneg n), Int.toNat_natCast]
  | unsigned => rfl

/-- A text that is given is read. -/
theorem readText_of_is {given : Given} {text : String} (is : given.Is (.text text))
    (place : Place) : readText place given = .ok text := by
  cases is
  rfl

/-- A setting that is given for the section is read from its table. -/
theorem readEntry_of_gives {α : Type} {read : Place → Given → Except ConfigError α}
    {s : Setting} {default value : α} {entries : List (String × Given × Origin)} {p : Plain}
    (reads : ∀ given place, given.Is p → read place given = .ok value)
    (h : layer.Gives s p) (table : layer.sectionOf s = some (.table entries)) :
    readEntry read s default entries = .ok value := by
  obtain ⟨others, given, origin, same, found, is⟩ := h
  rw [table] at same
  cases same
  rw [readEntry, found]
  exact reads given _ is

/-- A configuration of which every setting is given is made. -/
theorem ofLayer_of_gives (h : ∀ s, layer.Gives s (c.valueOf s)) : ofLayer layer = .ok c := by
  obtain ⟨storage, -, -, storageTable, -⟩ := h .rowCapacity
  obtain ⟨logging, -, -, loggingTable, -⟩ := h .level
  have rows (default : Nat) : readEntry readSize .rowCapacity default storage = .ok c.rowCapacity :=
    readEntry_of_gives (fun _ place is => readSize_of_is is place) (h .rowCapacity) storageTable
  have columns (default : Nat) :
      readEntry readSize .columnCapacity default storage = .ok c.columnCapacity :=
    readEntry_of_gives (fun _ place is => readSize_of_is is place) (h .columnCapacity) storageTable
  have level (default : String) : readEntry readText .level default logging = .ok c.level :=
    readEntry_of_gives (fun _ place is => readText_of_is is place) (h .level) loggingTable
  have format (default : String) : readEntry readText .format default logging = .ok c.format :=
    readEntry_of_gives (fun _ place is => readText_of_is is place) (h .format) loggingTable
  have loggingRead : readLogging {} layer.logging
      = .ok { level := c.level, format := c.format } := by
    rw [show layer.logging = _ from loggingTable, readLogging, format, level]
    rfl
  have storageRead : readStorage { level := c.level, format := c.format } layer.storage
      = .ok c := by
    rw [show layer.storage = _ from storageTable, readStorage, columns, rows]
    rfl
  rw [ofLayer, loggingRead]
  exact storageRead

/-- The libraries that the program runs with do what is relied on. -/
theorem Libraries.own_spec : Libraries.own.Spec where
  writes sections _ small := Sections.exists_write small
  refuses sections large := ⟨_, if_neg (Bool.eq_false_iff.1 large)⟩
  reads origin text sections usual table := by
    refine ⟨.ofToml origin sections.table, ?_, fun s value => Layer.gives_ofToml⟩
    show Layer.ofTomlText origin text = _
    rw [Layer.ofTomlText, table, Option.bind_some, resolveDocument_table usual]
  merges upper lower s value given := Layer.gives_overlay given lower
  extracts layer c given := ofLayer_of_gives given

end Own

end Tabular.Config
