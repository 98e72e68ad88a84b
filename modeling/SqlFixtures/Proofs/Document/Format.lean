import SqlFixtures.Proofs.Document.Cases
import Mathlib.Tactic

/-!
# The format of documents of cases

A document of cases is accepted exactly if its root and the children of the root have the right
tags, no child has children of its own, and the attributes of every child are an id that is not
empty, a value and, if there is one, a list of database types.  The list goes by two names, of which
one element may use only one.  Whatever else is wrong with an element tree is a fault of its
document, reported under the name of the resource.
-/

namespace SqlFixtures.Record

theorem lookup_map_text (attributes : List (String × String)) (name : String) :
    List.lookup name (attributes.map fun a => (a.1, Data.text a.2)) =
      (attributes.lookup name).map Data.text := by
  induction attributes with
  | nil => rfl
  | cons a attributes ih =>
      rw [List.map_cons, List.lookup_cons, List.lookup_cons, ih]
      cases name == a.1 with
      | true => rfl
      | false => rfl

theorem required_only_eq_valid_iff {α : Type} {fields : Fields} {name : String}
    {read : Data → Checked α} {a : α} :
    required fields (.only name) read = .valid a ↔
      ∃ data, fields.lookup name = some data ∧ read data = .valid a := by
  have hused : (Key.only name).used fields = name := rfl
  rw [required, hused]
  cases fields.lookup name with
  | none => simp
  | some data => simp [Checked.under_eq_valid_iff]

theorem optional_eq_valid_iff {α : Type} {fields : Fields} {key : Key} {absent : α}
    {read : Data → Checked α} {a : α} :
    optional fields key absent read = .valid a ↔
      (fields.lookup (key.used fields) = none ∧ absent = a) ∨
        ∃ data, fields.lookup (key.used fields) = some data ∧ read data = .valid a := by
  rw [optional]
  cases fields.lookup (key.used fields) with
  | none => simp
  | some data => simp [Checked.under_eq_valid_iff]

theorem noOthers_eq_valid_iff {fields : Fields} {known : List Key} :
    noOthers fields known = .valid () ↔
      ∀ field ∈ fields, ∃ key ∈ known, field.1 = key.used fields := by
  have hfilter : noOthers fields known = .valid () ↔
      (fields.map (·.1)).filter (fun name => !(known.map (·.used fields)).contains name) = [] := by
    unfold noOthers
    generalize (fields.map (·.1)).filter (fun name =>
      !(known.map (·.used fields)).contains name) = others
    cases others with
    | nil => simp
    | cons other others => simp
  rw [hfilter, List.filter_eq_nil_iff, List.forall_mem_map]
  simp only [Bool.not_eq_true, Bool.not_eq_false', List.contains_iff_mem, List.mem_map,
    eq_comm (b := Key.used _ fields)]

theorem readNonemptyText_text_eq_valid_iff {s t : String} :
    readNonemptyText (.text s) = .valid t ↔ s = t ∧ t ≠ "" := by
  have hread : readNonemptyText (.text s) =
      if s.isEmpty then .fail .emptyText else .valid s := rfl
  rw [hread]
  by_cases hempty : s.isEmpty
  · rw [if_pos hempty]
    constructor
    · intro hvalid
      cases hvalid
    · rintro ⟨rfl, hne⟩
      exact absurd (String.isEmpty_iff.mp hempty) hne
  · have hne : s ≠ "" := fun heq => hempty (String.isEmpty_iff.mpr heq)
    rw [if_neg hempty, Checked.valid.injEq]
    exact ⟨fun heq => ⟨heq, heq ▸ hne⟩, And.left⟩

/-! ## Fields that are given as text -/

section

variable {fields : Fields} {given : Option String} {s : String}

theorem required_nonempty_of_lookup {name : String}
    (hlookup : fields.lookup name = given.map Data.text) :
    required fields (.only name) readNonemptyText = .valid s ↔ given = some s ∧ s ≠ "" := by
  rw [required_only_eq_valid_iff, hlookup]
  cases given with
  | none => simp
  | some t => simp [readNonemptyText_text_eq_valid_iff]

theorem required_text_of_lookup {name : String}
    (hlookup : fields.lookup name = given.map Data.text) :
    required fields (.only name) readText = .valid s ↔ given = some s := by
  rw [required_only_eq_valid_iff, hlookup]
  cases given with
  | none => simp
  | some t => simp [readText]

theorem optional_text_of_lookup {key : Key} {found : Option String}
    (hlookup : fields.lookup (key.used fields) = given.map Data.text) :
    optional fields key none (orNull readText) = .valid found ↔ given = found := by
  rw [optional_eq_valid_iff, hlookup]
  cases given with
  | none => simp
  | some t => simp [orNull, readText, Checked.map]

end

end SqlFixtures.Record

namespace SqlFixtures.Document

open Record (Case Data)
open Xml (Element)

variable {resource : Value}

/-! ## The attributes of an element -/

theorem lookup_fieldsOf (e : Element) (name : String) :
    (fieldsOf e).lookup name = (e.attributes.lookup name).map Data.text :=
  Record.lookup_map_text e.attributes name

theorem required_id_eq_valid_iff {e : Element} {id : String} :
    Record.required (fieldsOf e) (.only "id") Record.readNonemptyText = .valid id ↔
      e.attributes.lookup "id" = some id ∧ id ≠ "" :=
  Record.required_nonempty_of_lookup (lookup_fieldsOf e _)

theorem required_value_eq_valid_iff {e : Element} {value : String} :
    Record.required (fieldsOf e) (.only "value") Record.readText = .valid value ↔
      e.attributes.lookup "value" = some value :=
  Record.required_text_of_lookup (lookup_fieldsOf e _)

theorem optional_text_eq_valid_iff {e : Element} {key : Record.Key} {list : Option String} :
    Record.optional (fieldsOf e) key none (Record.orNull Record.readText) = .valid list ↔
      e.attributes.lookup (key.used (fieldsOf e)) = list :=
  Record.optional_text_of_lookup (lookup_fieldsOf e _)

/-- The attributes of an element are those of a case, where the list of database types goes by the
name `listName`. -/
def Holds (listName : String) (e : Element) (c : Case) : Prop :=
  e.attributes.lookup "id" = some c.id ∧ c.id ≠ "" ∧
    e.attributes.lookup "value" = some c.value ∧
    e.attributes.lookup listName = c.databaseTypes ∧
    ∀ a ∈ e.attributes, a.1 = "id" ∨ a.1 = "value" ∨ a.1 = listName

theorem ofFields_fieldsOf_eq_valid_iff {e : Element} {c : Case} :
    Case.ofFields (fieldsOf e) = .valid c ↔
      Holds (Case.databaseTypesKey.used (fieldsOf e)) e c := by
  rw [Case.ofFields_eq_valid_iff, required_id_eq_valid_iff, required_value_eq_valid_iff,
    optional_text_eq_valid_iff, Record.noOthers_eq_valid_iff, Holds, and_assoc]
  simp only [fieldsOf, List.forall_mem_map]
  simp [Record.Key.only, Record.Key.used]

/-- If the attributes are those of a case under one name of the list, the list goes by the name that
is looked for. -/
theorem holds_used_iff {e : Element} {c : Case} :
    Holds (Case.databaseTypesKey.used (fieldsOf e)) e c ↔
      Holds "database-types" e c ∨ Holds "database_types" e c := by
  have hused : Case.databaseTypesKey.used (fieldsOf e) =
      if (e.attributes.lookup "database-types").isSome then "database-types"
      else "database_types" := by
    change (if ((fieldsOf e).lookup "database-types").isSome then "database-types"
      else "database_types") = _
    rw [lookup_fieldsOf, Option.isSome_map]
  rw [hused]
  cases hlist : e.attributes.lookup "database-types" with
  | some list =>
      rw [Option.isSome_some, if_pos rfl, iff_self_or]
      -- The other name leaves no room for the attribute that is there.
      intro ⟨_, _, _, _, hnames⟩
      obtain ⟨before, after, hattributes, -⟩ := List.lookup_eq_some_iff.mp hlist
      have hname := hnames ("database-types", list) (by simp [hattributes])
      simp at hname
  | none =>
      rw [Option.isSome_none, if_neg Bool.false_ne_true, iff_or_self]
      intro ⟨hid, hne, hvalue, hlookup, hnames⟩
      have hother : ∀ a ∈ e.attributes, a.1 = "id" ∨ a.1 = "value" := by
        intro a ha
        have hfree := List.lookup_eq_none_iff.mp hlist a ha
        rcases hnames a ha with h | h | h
        · exact Or.inl h
        · exact Or.inr h
        · simp [h] at hfree
      refine ⟨hid, hne, hvalue, ?_, ?_⟩
      · rw [← hlookup, hlist, List.lookup_eq_none_iff]
        intro a ha
        rcases hother a ha with h | h
        · simp [h]
        · simp [h]
      · intro a ha
        exact (hother a ha).imp_right Or.inl

/-! ## Faults of a document -/

/-- Whatever goes wrong is a fault of the document that the resource holds. -/
def Blames {α : Type} (resource : Value) (result : Except Failure α) : Prop :=
  ∀ failure, result = .error failure → ∃ fault, failure = .document fault resource

theorem blames_ok {α : Type} (a : α) : Blames resource (.ok a) := by
  intro failure hfails
  cases hfails

theorem blames_fail {α : Type} (fault : DocumentFault) :
    Blames resource (fail resource fault : Except Failure α) := by
  intro failure hfails
  cases hfails
  exact ⟨fault, rfl⟩

theorem Blames.bind {α β : Type} {result : Except Failure α} {next : α → Except Failure β}
    (hresult : Blames resource result) (hnext : ∀ a, Blames resource (next a)) :
    Blames resource (result >>= next) :=
  Results.FailsOnly.bind hresult hnext

theorem Blames.mapM {α β : Type} {f : α → Except Failure β} (hf : ∀ a, Blames resource (f a))
    (as : List α) : Blames resource (as.mapM f) :=
  Results.FailsOnly.mapM hf as

theorem blames_expectRoot (tag : String) (root : Element) :
    Blames resource (expectRoot resource tag root) := by
  unfold expectRoot
  split
  · exact blames_ok ()
  · exact blames_fail _

theorem blames_expectTag (tag : String) (e : Element) :
    Blames resource (expectTag resource tag e) := by
  unfold expectTag
  split
  · exact blames_ok ()
  · exact blames_fail _

theorem blames_accept {α : Type} (kind : String) (checked : Record.Checked α) :
    Blames resource (accept resource kind checked) := by
  cases checked with
  | valid a => exact blames_ok a
  | invalid problems => exact blames_fail _

theorem blames_caseOfElement (e : Element) : Blames resource (caseOfElement resource e) := by
  apply Blames.bind (blames_expectTag _ e)
  intro _
  split
  · exact blames_accept _ _
  · exact blames_fail _

/-! ## What is accepted -/

/-- An element tree is accepted exactly if it has the format of a document of cases, and then gives
one case for each child of the root, in order, with the values of the attributes as they are.  The
list of database types is accepted under a second name where the first is not used.  A tree that is
not accepted is reported with the name of the resource. -/
theorem casesOfElement_accepts_format (resource : Value) (root : Element) :
    (∀ cases, casesOfElement resource root = .ok cases ↔
      root.tag = "sql-cases" ∧
        List.Forall₂ (fun e c => e.tag = "sql-case" ∧ e.children = [] ∧
          (Holds "database-types" e c ∨ Holds "database_types" e c)) root.children cases) ∧
    (∀ failure, casesOfElement resource root = .error failure →
      ∃ fault, failure = .document fault resource) := by
  constructor
  · intro cases
    simp only [casesOfElement_eq_ok_iff, ofFields_fieldsOf_eq_valid_iff, holds_used_iff]
  · apply Blames.bind (blames_expectRoot _ root)
    exact fun _ => Blames.mapM blames_caseOfElement root.children

/-- Attributes of the root and all text are passed over, and a blank list is kept as it is. -/
theorem casesOfElement_accepts_format_of_blank_list :
    casesOfElement "a.xml" ⟨"sql-cases", [("id", "")], "text",
      [⟨"sql-case", [("value", "%s"), ("database-types", " "), ("id", "a")], "text", []⟩,
        ⟨"sql-case", [("id", "a"), ("value", "")], "", []⟩]⟩ =
      .ok [⟨"a", "%s", some " "⟩, ⟨"a", "", none⟩] := by
  rw [(casesOfElement_accepts_format _ _).1]
  refine ⟨rfl, .cons ⟨rfl, rfl, Or.inl ?_⟩ (.cons ⟨rfl, rfl, Or.inl ?_⟩ .nil)⟩
  · exact ⟨rfl, by decide, rfl, rfl, by decide⟩
  · exact ⟨rfl, by decide, rfl, rfl, by decide⟩

def otherSpelling : List UInt8 :=
  "<sql-cases><sql-case id='a' value='v' database_types='MySQL'/></sql-cases>".toUTF8.toList

/-- An attribute with an underscore in the place of the hyphen restricts a case, too. -/
theorem exists_accepted_element_with_other_spelling :
    ∃ root, Xml.parse otherSpelling = .ok root ∧
      casesOfElement "a.xml" root = .ok [⟨"a", "v", some "MySQL"⟩] ∧
      ∃ e ∈ root.children, ∃ a ∈ e.attributes,
        a.1 ∉ ["id", "value", "database-types"] := by
  have hread : readCases "a.xml" otherSpelling = .ok [⟨"a", "v", some "MySQL"⟩] := by
    rw [← Results.toOption_eq_some_iff]
    decide +kernel
  have hattributes : (Xml.parse otherSpelling).toOption.map (fun root =>
      root.children.map (·.attributes)) =
        some [[("id", "a"), ("value", "v"), ("database_types", "MySQL")]] := by
    decide +kernel
  obtain ⟨root, hroot, hcases⟩ := Results.bind_eq_ok_iff.mp hread
  have hparse := rootOf_eq_ok_iff.mp hroot
  refine ⟨root, hparse, hcases, ?_⟩
  rw [hparse] at hattributes
  obtain ⟨e, hchildren, he⟩ := List.map_eq_singleton_iff.mp (Option.some.inj hattributes)
  refine ⟨e, by simp [hchildren], ("database_types", "MySQL"), by simp [he], by decide⟩

end SqlFixtures.Document
