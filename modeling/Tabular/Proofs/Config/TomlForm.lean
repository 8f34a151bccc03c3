import Tabular.Config.TomlForm
import Tabular.Proofs.Config.Libraries

/-!
# Configurations are read as they were written

The document of a configuration has two sections with two settings each. Whatever the texts of the
configuration are, libraries that keep to `Libraries.Spec` write the document by the rules, so it
has the table of the sections. The layer that is read from it then gives every setting, and none is
left to the defaults (`ofToml_toToml`).
-/

namespace Tabular.Config

open Toml (AreNames maxInteger)

variable {lib : Libraries}

/-! ## The sections of a configuration -/

/-- The names of the sections and of the settings need no quotes. -/
theorem wellNamed_sections (c : Config) : c.sections.WellNamed where
  names := show AreNames ["storage", "logging"] by decide
  entryNames := by
    have storage : AreNames [Setting.rowCapacity.name, Setting.columnCapacity.name] := by decide
    have logging : AreNames [Setting.level.name, Setting.format.name] := by decide
    exact List.forall_mem_cons.2 ⟨storage, List.forall_mem_singleton.2 logging⟩

/-- No setting stands for its whole section. -/
theorem noneReserved_sections (c : Config) : NoneReserved c.sections := by
  have usual (s : Setting) : s.name ≠ valueEntry ∧ s.name ≠ reservedEntry := by
    cases s <;> decide
  refine List.forall_mem_cons.2 ⟨List.forall_mem_cons.2 ⟨usual .rowCapacity, ?_⟩, ?_⟩
  · exact List.forall_mem_singleton.2 (usual .columnCapacity)
  · refine List.forall_mem_singleton.2 (List.forall_mem_cons.2 ⟨usual .level, ?_⟩)
    exact List.forall_mem_singleton.2 (usual .format)

/-- The sections say what the configuration says. -/
theorem sectionsValue?_sections (c : Config) (s : Setting) :
    sectionsValue? c.sections s = some (c.valueOf s) := by
  cases s <;> rfl

/-- Only the capacities can be too large for a document. -/
theorem isWritable_sections_iff (c : Config) :
    c.sections.isWritable = true ↔ c.rowCapacity ≤ maxInteger ∧ c.columnCapacity ≤ maxInteger := by
  simp [Toml.Sections.isWritable, sections, Toml.Plain.isWritable]

/-! ## Every configuration -/

/-- The text of a configuration is read over the defaults as the configuration that it was. -/
theorem exists_ofToml (spec : lib.Spec) {c : Config} (small : c.sections.isWritable = true) :
    ∃ text, c.toToml lib = .ok text ∧ ofToml lib text = .ok c := by
  obtain ⟨text, written, byRules⟩ := spec.writes c.sections (wellNamed_sections c) small
  have table : Toml.Table.ofText? text = some c.sections.table :=
    Toml.Sections.ofText?_of_writtenAs byRules (wellNamed_sections c) small
  obtain ⟨layer, read, gives⟩ :=
    spec.reads .text text c.sections (noneReserved_sections c) table
  have extracted : lib.extract (lib.merge layer (lib.ofConfig {})) = .ok c := by
    refine spec.extracts _ c fun s => ?_
    exact spec.merges layer _ s _ (gives s _ (sectionsValue?_sections c s))
  refine ⟨text, ?_, ?_⟩
  · rw [toToml, written]
    rfl
  · rw [ofToml, read]
    exact extracted

/-- With any libraries that keep to the rules, a configuration of which both capacities are integers
of a document is written, whatever its texts are and whether it is valid or not, and it is read as
it was. Otherwise it is not written. -/
theorem ofToml_toToml (lib : Libraries) (spec : lib.Spec) (c : Config) :
    (c.rowCapacity ≤ maxInteger ∧ c.columnCapacity ≤ maxInteger →
        ∃ text, c.toToml lib = .ok text ∧ ofToml lib text = .ok c) ∧
      (maxInteger < c.rowCapacity ∨ maxInteger < c.columnCapacity →
        ∃ error reason, c.toToml lib = .error error ∧
          error.message = ConfigError.parseFailure reason) := by
  constructor
  · intro small
    exact exists_ofToml spec ((isWritable_sections_iff c).2 small)
  · intro large
    have unwritable : c.sections.isWritable = false := by
      rw [Bool.eq_false_iff, ne_eq, isWritable_sections_iff]
      omega
    obtain ⟨reason, refused⟩ := spec.refuses c.sections unwritable
    refine ⟨.unwritable reason, reason, ?_, rfl⟩
    rw [toToml, refused]
    rfl

/-- Texts with both quotes in long runs, a backslash, a line feed and a control character, with the
libraries of the program. -/
theorem ofToml_toToml_awkward :
    let awkward : Config :=
      { rowCapacity := maxInteger, columnCapacity := 0, level := "''''\"\"\"\"\n\\",
        format := "\r\x00" }
    (∃ text, awkward.toToml .own = .ok text ∧ ofToml .own text = .ok awkward) ∧
      ∃ error reason, { awkward with columnCapacity := maxInteger + 1 }.toToml .own = .error error ∧
        error.message = ConfigError.parseFailure reason := by
  intro awkward
  have small : awkward.rowCapacity ≤ maxInteger ∧ awkward.columnCapacity ≤ maxInteger := by decide
  refine ⟨(ofToml_toToml .own Libraries.own_spec awkward).1 small,
    (ofToml_toToml .own Libraries.own_spec _).2 (.inr ?_)⟩
  exact Nat.lt_succ_self maxInteger

end Tabular.Config
