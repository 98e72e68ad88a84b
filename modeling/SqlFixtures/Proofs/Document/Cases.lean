import SqlFixtures.Document.Cases
import SqlFixtures.Proofs.Results
import Mathlib.Tactic

/-!
# Cases that were read

Whether a document can be read, and what its cases are, does not depend on the name of the resource,
which is only reported.  A case that was read has an id.
-/

namespace SqlFixtures.Record

namespace Checked

variable {α β : Type}

theorem apply_eq_valid_iff {f : Checked (α → β)} {checked : Checked α} {b : β} :
    apply f checked = .valid b ↔ ∃ g a, f = .valid g ∧ checked = .valid a ∧ g a = b := by
  cases f with
  | valid g =>
      cases checked with
      | valid a => simp [apply]
      | invalid problems => simp [apply]
  | invalid problems =>
      cases checked with
      | valid a => simp [apply]
      | invalid others => simp [apply]

theorem seq_eq_valid_iff {f : Checked (α → β)} {checked : Checked α} {b : β} :
    (f <*> checked) = .valid b ↔ ∃ g a, f = .valid g ∧ checked = .valid a ∧ g a = b :=
  apply_eq_valid_iff

theorem map_eq_valid_iff {g : α → β} {checked : Checked α} {b : β} :
    (g <$> checked) = .valid b ↔ ∃ a, checked = .valid a ∧ g a = b := by
  cases checked with
  | valid a => simp [Functor.map, apply]
  | invalid problems => simp [Functor.map, apply]

theorem seqLeft_eq_valid_iff {checked : Checked α} {after : Checked β} {a : α} :
    (checked <* after) = .valid a ↔ checked = .valid a ∧ ∃ b, after = .valid b := by
  cases checked with
  | valid a' =>
      cases after with
      | valid b => simp [SeqLeft.seqLeft, apply]
      | invalid problems => simp [SeqLeft.seqLeft, apply]
  | invalid problems =>
      cases after with
      | valid b => simp [SeqLeft.seqLeft, apply]
      | invalid others => simp [SeqLeft.seqLeft, apply]

theorem under_eq_valid_iff {checked : Checked α} {step : Step} {a : α} :
    checked.under step = .valid a ↔ checked = .valid a := by
  cases checked with
  | valid b => rfl
  | invalid problems => simp [under]

end Checked

theorem readNonemptyText_ne_empty {data : Data} {s : String}
    (hread : readNonemptyText data = .valid s) : s ≠ "" := by
  unfold readNonemptyText at hread
  split at hread
  next text =>
    split at hread
    next => cases hread
    next hnonempty =>
      cases hread
      rintro rfl
      exact hnonempty rfl
  next => cases hread

theorem exists_read_of_required {α : Type} {fields : Fields} {key : Key}
    {read : Data → Checked α} {a : α} (hrequired : required fields key read = .valid a) :
    ∃ data, read data = .valid a := by
  unfold required at hrequired
  split at hrequired
  next data _ => exact ⟨data, Checked.under_eq_valid_iff.mp hrequired⟩
  next => cases hrequired

theorem Case.ofFields_eq_valid_iff {fields : Fields} {c : Case} :
    Case.ofFields fields = .valid c ↔
      required fields (.only "id") readNonemptyText = .valid c.id ∧
      required fields (.only "value") readText = .valid c.value ∧
      optional fields databaseTypesKey none (orNull readText) = .valid c.databaseTypes ∧
      noOthers fields [.only "id", .only "value", databaseTypesKey] = .valid () := by
  rw [Case.ofFields, Checked.seqLeft_eq_valid_iff, Checked.seq_eq_valid_iff]
  simp only [Checked.seq_eq_valid_iff, Checked.map_eq_valid_iff]
  constructor
  · rintro ⟨⟨_, types, ⟨_, value, ⟨id, hid, rfl⟩, hvalue, rfl⟩, htypes, rfl⟩, ⟨⟩, hothers⟩
    exact ⟨hid, hvalue, htypes, hothers⟩
  · rintro ⟨hid, hvalue, htypes, hothers⟩
    exact ⟨⟨_, _, ⟨_, _, ⟨_, hid, rfl⟩, hvalue, rfl⟩, htypes, rfl⟩, (), hothers⟩

theorem Case.id_ne_empty_of_ofFields {fields : Fields} {c : Case}
    (hcase : Case.ofFields fields = .valid c) : c.id ≠ "" := by
  obtain ⟨hid, -⟩ := Case.ofFields_eq_valid_iff.mp hcase
  obtain ⟨data, hread⟩ := exists_read_of_required hid
  exact readNonemptyText_ne_empty hread

end SqlFixtures.Record

namespace SqlFixtures.Document

open Record (Case)
open Xml (Element)

/-! ## The name of the resource -/

variable {resource other : Value}

theorem accept_eq_ok_iff {α : Type} {kind : String} {checked : Record.Checked α} {a : α} :
    accept resource kind checked = .ok a ↔ checked = .valid a := by
  cases checked with
  | valid b => simp [accept]
  | invalid problems => simp [accept, fail]

theorem caseOfElement_eq_ok_iff {e : Element} {c : Case} :
    caseOfElement resource e = .ok c ↔
      e.tag = "sql-case" ∧ e.children = [] ∧ Case.ofFields (fieldsOf e) = .valid c := by
  unfold caseOfElement expectTag
  by_cases htag : e.tag = "sql-case"
  · by_cases hchildren : e.children = []
    · simp [htag, hchildren, accept_eq_ok_iff, bind, Except.bind]
    · simp [htag, hchildren, fail, bind, Except.bind]
  · simp [htag, fail, bind, Except.bind]

theorem casesOfElement_eq_ok_iff {root : Element} {cases : List Case} :
    casesOfElement resource root = .ok cases ↔
      root.tag = "sql-cases" ∧
        List.Forall₂ (fun e c => e.tag = "sql-case" ∧ e.children = [] ∧
          Case.ofFields (fieldsOf e) = .valid c) root.children cases := by
  simp only [casesOfElement, expectRoot, Results.bind_eq_ok_iff, Results.mapM_eq_ok_iff,
    caseOfElement_eq_ok_iff]
  constructor
  · rintro ⟨⟨⟩, hroot, hcases⟩
    refine ⟨?_, hcases⟩
    by_contra htag
    rw [if_neg htag] at hroot
    cases hroot
  · rintro ⟨htag, hcases⟩
    exact ⟨(), if_pos htag, hcases⟩

theorem rootOf_eq_ok_iff {bytes : List UInt8} {root : Element} :
    rootOf resource bytes = .ok root ↔ Xml.parse bytes = .ok root := by
  unfold rootOf
  cases Xml.parse bytes with
  | ok parsed => simp [Except.mapError]
  | error fault => simp [Except.mapError]

theorem readCases_eq_ok_iff {bytes : List UInt8} {cases : List Case} :
    readCases resource bytes = .ok cases ↔
      ∃ root, Xml.parse bytes = .ok root ∧ root.tag = "sql-cases" ∧
        List.Forall₂ (fun e c => e.tag = "sql-case" ∧ e.children = [] ∧
          Case.ofFields (fieldsOf e) = .valid c) root.children cases := by
  rw [readCases, Results.bind_eq_ok_iff]
  simp only [rootOf_eq_ok_iff, casesOfElement_eq_ok_iff]

/-- A document that can be read under one name can be read under any other. -/
theorem readCases_of_readCases {bytes : List UInt8} {cases : List Case}
    (hread : readCases resource bytes = .ok cases) : readCases other bytes = .ok cases :=
  readCases_eq_ok_iff.mpr (readCases_eq_ok_iff.mp hread)

/-- The document can be read, whatever its name is. -/
def Readable (bytes : List UInt8) : Prop := ∃ resource cases, readCases resource bytes = .ok cases

/-- The cases of a document, none if it cannot be read. -/
def casesIn (bytes : List UInt8) : List Case := (readCases .none bytes).toOption.getD []

def lastCase? (id : String) (bytes : List UInt8) : Option Case :=
  (casesIn bytes).reverse.find? fun c => c.id = id

theorem casesIn_of_readCases {bytes : List UInt8} {cases : List Case}
    (hread : readCases resource bytes = .ok cases) : casesIn bytes = cases := by
  rw [casesIn, readCases_of_readCases hread]
  rfl

theorem Readable.readCases_eq {bytes : List UInt8} (hreadable : Readable bytes)
    (resource : Value) : readCases resource bytes = .ok (casesIn bytes) := by
  obtain ⟨other, cases, hread⟩ := hreadable
  rw [casesIn_of_readCases hread]
  exact readCases_of_readCases hread

theorem id_ne_empty_of_readCases {bytes : List UInt8} {cases : List Case}
    (hread : readCases resource bytes = .ok cases) {c : Case} (hmem : c ∈ cases) :
    c.id ≠ "" := by
  obtain ⟨root, -, -, hcases⟩ := readCases_eq_ok_iff.mp hread
  obtain ⟨e, -, -, -, hcase⟩ := Results.exists_left_of_mem hcases hmem
  exact Case.id_ne_empty_of_ofFields hcase

end SqlFixtures.Document
