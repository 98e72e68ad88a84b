import SqlFixtures.Proofs.Document.Failures
import Mathlib.Tactic

/-!
# The format of documents of assertions

A document of assertions is accepted exactly if its root and the children of the root have the right
tags, the attributes of every child are an id that is not empty, the SQL text and, if there is one,
a list of database types that the registry knows, and every child has at most one child of its own,
with the tag of what is expected.  The child goes by a name that an attribute could have as well;
such an attribute is refused whether or not the child is there.  Otherwise the first element that
offends is reported, for the first of the checks that it fails.
-/

namespace SqlFixtures.Record

theorem AssertCase.ofFields_eq_valid_iff {fields : Fields} {a : AssertCase} :
    AssertCase.ofFields fields = .valid a ↔
      required fields (.only "id") readNonemptyText = .valid a.id ∧
      required fields (.only "sql") readText = .valid a.sql ∧
      optional fields (.only "types") none (orNull readText) = .valid a.types ∧
      optional fields expectedKey none (orNull Node.ofData) = .valid a.expected ∧
      noOthers fields [.only "id", .only "sql", .only "types", expectedKey] = .valid () := by
  rw [AssertCase.ofFields, Checked.seqLeft_eq_valid_iff, Checked.seq_eq_valid_iff]
  simp only [Checked.seq_eq_valid_iff, Checked.map_eq_valid_iff]
  constructor
  · rintro ⟨⟨_, expected, ⟨_, types, ⟨_, sql, ⟨id, hid, rfl⟩, hsql, rfl⟩, htypes, rfl⟩, hexpected,
      rfl⟩, ⟨⟩, hothers⟩
    exact ⟨hid, hsql, htypes, hexpected, hothers⟩
  · rintro ⟨hid, hsql, htypes, hexpected, hothers⟩
    exact ⟨⟨_, _, ⟨_, _, ⟨_, _, ⟨_, hid, rfl⟩, hsql, rfl⟩, htypes, rfl⟩, hexpected, rfl⟩, (),
      hothers⟩

end SqlFixtures.Record

namespace SqlFixtures.Document

open Record (AssertCase Data Fields Node)
open Xml (Element)

variable {registry : Registry} {resource : Value} {e : Element}

/-! ## The child of an assertion -/

/-- There is no child, or a single one that says what is expected. -/
def Expects (e : Element) (expected : Option Node) : Prop :=
  (e.children = [] ∧ expected = none) ∨
    ∃ child, e.children = [child] ∧ child.tag = expectedTag ∧
      expected = some (.ofElement child)

/-- What is wrong with the children: the first or the second has a wrong tag, or has the right tag
where an attribute or another child has taken it. -/
inductive MisplacedChild (e : Element) : DocumentFault → Prop where
  | firstTag {child rest} (hchildren : e.children = child :: rest)
      (htag : child.tag ≠ expectedTag) : MisplacedChild e (.wrongElement expectedTag child.tag)
  | besideAttribute {child rest} (hchildren : e.children = child :: rest)
      (htag : child.tag = expectedTag) (htaken : e.attributes.lookup expectedTag ≠ none) :
      MisplacedChild e (.repeatedElement expectedTag)
  | secondTag {first second rest} (hchildren : e.children = first :: second :: rest)
      (hfirst : first.tag = expectedTag) (hfree : e.attributes.lookup expectedTag = none)
      (htag : second.tag ≠ expectedTag) : MisplacedChild e (.wrongElement expectedTag second.tag)
  | second {first second rest} (hchildren : e.children = first :: second :: rest)
      (hfirst : first.tag = expectedTag) (hfree : e.attributes.lookup expectedTag = none)
      (htag : second.tag = expectedTag) : MisplacedChild e (.repeatedElement expectedTag)

def expectedFields : Option Node → Fields
  | none => []
  | some node => [(expectedTag, .node node)]

theorem expectTag_eq_ok_iff {tag : String} {done : Unit} :
    expectTag resource tag e = .ok done ↔ e.tag = tag := by
  unfold expectTag
  by_cases htag : e.tag = tag
  · simp [htag]
  · simp [htag, fail]

theorem expectTag_eq_error_iff {tag : String} {failure : Failure} :
    expectTag resource tag e = .error failure ↔
      e.tag ≠ tag ∧ failure = .document (.wrongElement tag e.tag) resource := by
  unfold expectTag
  by_cases htag : e.tag = tag
  · simp [htag]
  · simp [htag, fail, eq_comm]

theorem addExpected_of_wrong_tag {fields : Fields} {child : Element}
    (htag : child.tag ≠ expectedTag) (rest : List Element) :
    addExpected resource fields (child :: rest) =
      fail resource (.wrongElement expectedTag child.tag) := by
  rw [addExpected, expectTag, if_neg htag]
  rfl

theorem addExpected_of_taken {fields : Fields} {child : Element} (htag : child.tag = expectedTag)
    (htaken : (fields.lookup expectedTag).isSome) (rest : List Element) :
    addExpected resource fields (child :: rest) = fail resource (.repeatedElement expectedTag) := by
  rw [addExpected, expectTag, if_pos htag, if_pos htaken]
  rfl

theorem addExpected_of_free {fields : Fields} {child : Element} (htag : child.tag = expectedTag)
    (hfree : fields.lookup expectedTag = none) (rest : List Element) :
    addExpected resource fields (child :: rest) =
      addExpected resource (fields ++ expectedFields (some (.ofElement child))) rest := by
  rw [addExpected, expectTag, if_pos htag, hfree]
  rfl

theorem lookup_append_expectedFields (name : String) (expected : Option Node) :
    (fieldsOf e ++ expectedFields expected).lookup name =
      ((e.attributes.lookup name).map Data.text).or ((expectedFields expected).lookup name) := by
  rw [List.lookup_append, lookup_fieldsOf]

theorem Expects.addExpected_eq {expected : Option Node} (hexpects : Expects e expected)
    (hfree : expected ≠ none → e.attributes.lookup expectedTag = none) :
    addExpected resource (fieldsOf e) e.children =
      .ok (fieldsOf e ++ expectedFields expected) := by
  rcases hexpects with ⟨hchildren, rfl⟩ | ⟨child, hchildren, htag, rfl⟩
  · rw [hchildren, expectedFields, List.append_nil]
    rfl
  · have hfields : (fieldsOf e).lookup expectedTag = none := by
      rw [lookup_fieldsOf, hfree (by simp), Option.map_none]
    rw [hchildren, addExpected_of_free htag hfields]
    rfl

theorem MisplacedChild.addExpected_eq {fault : DocumentFault} (hfault : MisplacedChild e fault) :
    addExpected resource (fieldsOf e) e.children = fail resource fault := by
  have hfields (hfree : e.attributes.lookup expectedTag = none) :
      (fieldsOf e).lookup expectedTag = none := by
    rw [lookup_fieldsOf, hfree, Option.map_none]
  cases hfault with
  | firstTag hchildren htag =>
      rw [hchildren, addExpected_of_wrong_tag htag]
  | besideAttribute hchildren htag htaken =>
      have htaken : ((fieldsOf e).lookup expectedTag).isSome := by
        rwa [lookup_fieldsOf, Option.isSome_map, Option.isSome_iff_ne_none]
      rw [hchildren, addExpected_of_taken htag htaken]
  | secondTag hchildren hfirst hfree htag =>
      rw [hchildren, addExpected_of_free hfirst (hfields hfree), addExpected_of_wrong_tag htag]
  | second hchildren hfirst hfree htag =>
      have htaken (node : Node) :
          ((fieldsOf e ++ expectedFields (some node)).lookup expectedTag).isSome := by
        rw [lookup_append_expectedFields, hfree]
        rfl
      rw [hchildren, addExpected_of_free hfirst (hfields hfree),
        addExpected_of_taken htag (htaken _)]

/-- Every element has the children that it may have, or one that is misplaced. -/
theorem expects_or_misplacedChild (e : Element) :
    (∃ expected, Expects e expected ∧
      (expected ≠ none → e.attributes.lookup expectedTag = none)) ∨
    ∃ fault, MisplacedChild e fault := by
  cases hchildren : e.children with
  | nil => exact Or.inl ⟨none, Or.inl ⟨hchildren, rfl⟩, fun hsome => absurd rfl hsome⟩
  | cons first rest =>
      by_cases hfirst : first.tag = expectedTag
      · by_cases hfree : e.attributes.lookup expectedTag = none
        · cases rest with
          | nil => exact Or.inl ⟨_, Or.inr ⟨first, hchildren, hfirst, rfl⟩, fun _ => hfree⟩
          | cons second rest =>
              by_cases hsecond : second.tag = expectedTag
              · exact Or.inr ⟨_, .second hchildren hfirst hfree hsecond⟩
              · exact Or.inr ⟨_, .secondTag hchildren hfirst hfree hsecond⟩
        · exact Or.inr ⟨_, .besideAttribute hchildren hfirst hfree⟩
      · exact Or.inr ⟨_, .firstTag hchildren hfirst⟩

theorem addExpected_eq_ok_iff {fields : Fields} :
    addExpected resource (fieldsOf e) e.children = .ok fields ↔
      ∃ expected, Expects e expected ∧
        (expected ≠ none → e.attributes.lookup expectedTag = none) ∧
        fields = fieldsOf e ++ expectedFields expected := by
  constructor
  · intro hfields
    rcases expects_or_misplacedChild e with ⟨expected, hexpects, hfree⟩ | ⟨fault, hfault⟩
    · rw [hexpects.addExpected_eq hfree, Except.ok.injEq] at hfields
      exact ⟨expected, hexpects, hfree, hfields.symm⟩
    · rw [hfault.addExpected_eq] at hfields
      cases hfields
  · rintro ⟨expected, hexpects, hfree, rfl⟩
    exact hexpects.addExpected_eq hfree

theorem addExpected_eq_error_iff {failure : Failure} :
    addExpected resource (fieldsOf e) e.children = .error failure ↔
      ∃ fault, MisplacedChild e fault ∧ failure = .document fault resource := by
  constructor
  · intro hfails
    rcases expects_or_misplacedChild e with ⟨expected, hexpects, hfree⟩ | ⟨fault, hfault⟩
    · rw [hexpects.addExpected_eq hfree] at hfails
      cases hfails
    · rw [hfault.addExpected_eq, fail, Except.error.injEq] at hfails
      exact ⟨fault, hfault, hfails.symm⟩
  · rintro ⟨fault, hfault, rfl⟩
    exact hfault.addExpected_eq

/-! ## The attributes of an assertion -/

/-- The attributes of an element are those of an assertion. -/
structure HasAttributesOf (e : Element) (a : AssertCase) : Prop where
  id : e.attributes.lookup "id" = some a.id
  idNonempty : a.id ≠ ""
  sql : e.attributes.lookup "sql" = some a.sql
  types : e.attributes.lookup "types" = a.types
  noOthers : ∀ pair ∈ e.attributes, pair.1 = "id" ∨ pair.1 = "sql" ∨ pair.1 = "types"

theorem HasAttributesOf.lookup_eq_none {a : AssertCase} (hattributes : HasAttributesOf e a)
    {name : String} (hname : name ∉ ["id", "sql", "types"]) :
    e.attributes.lookup name = none := by
  rw [List.lookup_eq_none_iff]
  intro pair hpair
  have hmem : pair.1 ∈ ["id", "sql", "types"] := by
    simpa using hattributes.noOthers pair hpair
  have hother : name ≠ pair.1 := by
    rintro rfl
    exact hname hmem
  simpa using hother

theorem HasAttributesOf.lookup_expectedTag {a : AssertCase} (hattributes : HasAttributesOf e a) :
    e.attributes.lookup expectedTag = none :=
  hattributes.lookup_eq_none (by decide)

section

variable {expected : Option Node}

theorem lookup_of_ne_expectedTag {name : String} (hname : name ≠ expectedTag) :
    (fieldsOf e ++ expectedFields expected).lookup name =
      (e.attributes.lookup name).map Data.text := by
  have hnone : (expectedFields expected).lookup name = none := by
    cases expected with
    | none => rfl
    | some node =>
        rw [List.lookup_eq_none_iff]
        simpa [expectedFields] using hname
  rw [lookup_append_expectedFields, hnone, Option.or_none]

theorem orNull_ofData_text_ne_valid (s : String) (found : Option Node) :
    Record.orNull Node.ofData (.text s) ≠ .valid found := by
  simp [Record.orNull, Node.ofData, Record.Checked.fail, Record.Checked.map]

theorem used_expectedKey (fields : Fields) :
    AssertCase.expectedKey.used fields =
      if (fields.lookup expectedTag).isSome then expectedTag else "sharding_rule_assertions" := rfl

theorem used_expectedKey_not_mem (fields : Fields) :
    AssertCase.expectedKey.used fields ∉ ["id", "sql", "types"] := by
  rw [used_expectedKey]
  split
  · decide
  · decide

theorem lookup_expectedTag_of_free {node : Node} (hfree : e.attributes.lookup expectedTag = none) :
    (fieldsOf e ++ expectedFields (some node)).lookup expectedTag = some (.node node) := by
  rw [lookup_append_expectedFields, hfree]
  rfl

theorem used_expectedKey_of_child {node : Node} (hfree : e.attributes.lookup expectedTag = none) :
    AssertCase.expectedKey.used (fieldsOf e ++ expectedFields (some node)) = expectedTag := by
  rw [used_expectedKey, lookup_expectedTag_of_free hfree]
  rfl

/-- Only the child can give what is expected, under the name that is used. -/
theorem optional_expected_eq_valid_iff {found : Option Node}
    (hfree : expected ≠ none → e.attributes.lookup expectedTag = none) :
    Record.optional (fieldsOf e ++ expectedFields expected) AssertCase.expectedKey none
        (Record.orNull Node.ofData) = .valid found ↔
      e.attributes.lookup
          (AssertCase.expectedKey.used (fieldsOf e ++ expectedFields expected)) = none ∧
        found = expected := by
  rw [Record.optional_eq_valid_iff]
  cases expected with
  | none =>
      rw [expectedFields, List.append_nil, lookup_fieldsOf]
      cases e.attributes.lookup (AssertCase.expectedKey.used (fieldsOf e)) with
      | some s => simp [orNull_ofData_text_ne_valid]
      | none => simp [eq_comm]
  | some node =>
      have hfree := hfree (by simp)
      rw [used_expectedKey_of_child hfree, lookup_expectedTag_of_free hfree, hfree]
      simp [Record.orNull, Node.ofData, Record.Checked.map, eq_comm]

theorem noOthers_expected_iff
    (hfree : e.attributes.lookup
      (AssertCase.expectedKey.used (fieldsOf e ++ expectedFields expected)) = none)
    (hused : expected ≠ none →
      AssertCase.expectedKey.used (fieldsOf e ++ expectedFields expected) = expectedTag) :
    Record.noOthers (fieldsOf e ++ expectedFields expected)
        [.only "id", .only "sql", .only "types", AssertCase.expectedKey] = .valid () ↔
      ∀ pair ∈ e.attributes, pair.1 = "id" ∨ pair.1 = "sql" ∨ pair.1 = "types" := by
  rw [Record.noOthers_eq_valid_iff]
  simp only [List.mem_cons, List.not_mem_nil, or_false, exists_eq_or_imp, exists_eq_left]
  constructor
  · intro hknown pair hpair
    have hfield : (pair.1, Data.text pair.2) ∈ fieldsOf e ++ expectedFields expected :=
      List.mem_append_left _ (List.mem_map.mpr ⟨pair, hpair, rfl⟩)
    rcases hknown _ hfield with hid | hsql | htypes | hexpected
    · exact Or.inl hid
    · exact Or.inr (Or.inl hsql)
    · exact Or.inr (Or.inr htypes)
    · have hother := List.lookup_eq_none_iff.mp hfree pair hpair
      simp [← hexpected] at hother
  · intro hnames field hfield
    rcases List.mem_append.mp hfield with hattribute | hexpected
    · obtain ⟨pair, hpair, rfl⟩ := List.mem_map.mp hattribute
      rcases hnames pair hpair with hid | hsql | htypes
      · exact Or.inl hid
      · exact Or.inr (Or.inl hsql)
      · exact Or.inr (Or.inr (Or.inl htypes))
    · cases expected with
      | none => cases hexpected
      | some node =>
          obtain rfl := List.mem_singleton.mp hexpected
          exact Or.inr (Or.inr (Or.inr (hused (by simp)).symm))

/-- The fields of an element make an assertion exactly if its attributes do; the child is kept. -/
theorem ofFields_expectedFields_eq_valid_iff {a : AssertCase}
    (hfree : expected ≠ none → e.attributes.lookup expectedTag = none) :
    AssertCase.ofFields (fieldsOf e ++ expectedFields expected) = .valid a ↔
      HasAttributesOf e a ∧ a.expected = expected := by
  have hid : (fieldsOf e ++ expectedFields expected).lookup "id" =
      (e.attributes.lookup "id").map Data.text := lookup_of_ne_expectedTag (by decide)
  have hsql : (fieldsOf e ++ expectedFields expected).lookup "sql" =
      (e.attributes.lookup "sql").map Data.text := lookup_of_ne_expectedTag (by decide)
  have htypes : (fieldsOf e ++ expectedFields expected).lookup
      ((Record.Key.only "types").used (fieldsOf e ++ expectedFields expected)) =
        (e.attributes.lookup "types").map Data.text :=
    lookup_of_ne_expectedTag (show "types" ≠ expectedTag by decide)
  have hused (hsome : expected ≠ none) :
      AssertCase.expectedKey.used (fieldsOf e ++ expectedFields expected) = expectedTag := by
    obtain ⟨node, rfl⟩ := Option.ne_none_iff_exists'.mp hsome
    exact used_expectedKey_of_child (hfree hsome)
  rw [AssertCase.ofFields_eq_valid_iff, Record.required_nonempty_of_lookup hid,
    Record.required_text_of_lookup hsql, Record.optional_text_of_lookup htypes,
    optional_expected_eq_valid_iff hfree]
  constructor
  · rintro ⟨⟨hid, hne⟩, hsql, htypes, ⟨hunused, hexpected⟩, hothers⟩
    exact ⟨⟨hid, hne, hsql, htypes, (noOthers_expected_iff hunused hused).mp hothers⟩, hexpected⟩
  · rintro ⟨hattributes, hexpected⟩
    have hunused := hattributes.lookup_eq_none
      (used_expectedKey_not_mem (fieldsOf e ++ expectedFields expected))
    exact ⟨⟨hattributes.id, hattributes.idNonempty⟩, hattributes.sql, hattributes.types,
      ⟨hunused, hexpected⟩, (noOthers_expected_iff hunused hused).mpr hattributes.noOthers⟩

end

/-! ## One assertion -/

/-- The element is accepted as the assertion `a`. -/
structure AcceptedAs (registry : Registry) (e : Element) (a : AssertCase) : Prop where
  tag : e.tag = "sql-assert"
  expects : Expects e a.expected
  hasAttributes : HasAttributesOf e a
  known : ∀ name ∈ a.dialectNames, registry.Knows name

/-- What an element is reported for: the first of the checks that it fails, in this order. -/
inductive Offence (registry : Registry) (resource : Value) (e : Element) : Failure → Prop where
  | tag (htag : e.tag ≠ "sql-assert") :
      Offence registry resource e (.document (.wrongElement "sql-assert" e.tag) resource)
  | child (htag : e.tag = "sql-assert") {fault} (hfault : MisplacedChild e fault) :
      Offence registry resource e (.document fault resource)
  | record (htag : e.tag = "sql-assert") {expected} (hexpects : Expects e expected)
      (hfree : expected ≠ none → e.attributes.lookup expectedTag = none)
      (hrefused : ∀ a, ¬ HasAttributesOf e a) {problems}
      (hproblems : AssertCase.ofFields (fieldsOf e ++ expectedFields expected) =
        .invalid problems) :
      Offence registry resource e
        (.document (.invalidRecord AssertCase.kind problems) resource)
  | type (htag : e.tag = "sql-assert") {a : AssertCase} (hexpects : Expects e a.expected)
      (hattributes : HasAttributesOf e a) {before name after}
      (hnames : a.dialectNames = before ++ name :: after)
      (hbefore : ∀ known ∈ before, registry.Knows known) (hname : ¬ registry.Knows name) :
      Offence registry resource e (registry.unknown a.id name)

theorem assertOfElement_eq_ok_iff {a : AssertCase} :
    assertOfElement registry resource e = .ok a ↔ AcceptedAs registry e a := by
  simp only [assertOfElement, Results.bind_eq_ok_iff, expectTag_eq_ok_iff, addExpected_eq_ok_iff,
    accept_eq_ok_iff, Registry.resolveAll_eq_ok_iff]
  constructor
  · rintro ⟨⟨⟩, htag, _, ⟨expected, hexpects, hfree, rfl⟩, b, hfields, _, ⟨hknown, -⟩, ⟨⟩⟩
    obtain ⟨hattributes, rfl⟩ := (ofFields_expectedFields_eq_valid_iff hfree).mp hfields
    exact ⟨htag, hexpects, hattributes, hknown⟩
  · intro haccepted
    have hfree := haccepted.hasAttributes.lookup_expectedTag
    exact ⟨(), haccepted.tag, _, ⟨_, haccepted.expects, fun _ => hfree, rfl⟩, a,
      (ofFields_expectedFields_eq_valid_iff fun _ => hfree).mpr ⟨haccepted.hasAttributes, rfl⟩, _,
      ⟨haccepted.known, rfl⟩, rfl⟩

theorem accept_eq_error_iff {α : Type} {kind : String} {checked : Record.Checked α}
    {failure : Failure} :
    accept resource kind checked = .error failure ↔
      ∃ problems, checked = .invalid problems ∧
        failure = .document (.invalidRecord kind problems) resource := by
  cases checked with
  | valid a => simp [accept]
  | invalid problems => simp [accept, fail, eq_comm]

theorem assertOfElement_eq_error_iff {failure : Failure} :
    assertOfElement registry resource e = .error failure ↔
      Offence registry resource e failure := by
  simp only [assertOfElement, Results.bind_eq_error_iff, expectTag_eq_ok_iff,
    expectTag_eq_error_iff, addExpected_eq_ok_iff, addExpected_eq_error_iff, accept_eq_ok_iff,
    accept_eq_error_iff, Registry.resolveAll_eq_error_iff]
  constructor
  · rintro (⟨htag, rfl⟩ | ⟨⟨⟩, htag, ⟨fault, hfault, rfl⟩ | ⟨_, ⟨expected, hexpects, hfree, rfl⟩,
      ⟨problems, hproblems, rfl⟩ | ⟨a, hfields,
        ⟨before, name, after, hnames, hbefore, hname, rfl⟩ | ⟨_, -, ⟨⟩⟩⟩⟩⟩)
    · exact .tag htag
    · exact .child htag hfault
    · refine .record htag hexpects hfree (fun a hattributes => ?_) hproblems
      have hvalid : AssertCase.ofFields (fieldsOf e ++ expectedFields expected) =
          .valid { a with expected } :=
        (ofFields_expectedFields_eq_valid_iff hfree).mpr
          ⟨⟨hattributes.id, hattributes.idNonempty, hattributes.sql, hattributes.types,
            hattributes.noOthers⟩, rfl⟩
      rw [hproblems] at hvalid
      cases hvalid
    · obtain ⟨hattributes, rfl⟩ := (ofFields_expectedFields_eq_valid_iff hfree).mp hfields
      exact .type htag hexpects hattributes hnames hbefore hname
  · intro hoffence
    cases hoffence with
    | tag htag => exact Or.inl ⟨htag, rfl⟩
    | child htag hfault => exact Or.inr ⟨(), htag, Or.inl ⟨_, hfault, rfl⟩⟩
    | record htag hexpects hfree _ hproblems =>
        exact Or.inr ⟨(), htag, Or.inr ⟨_, ⟨_, hexpects, hfree, rfl⟩, Or.inl ⟨_, hproblems, rfl⟩⟩⟩
    | type htag hexpects hattributes hnames hbefore hname =>
        have hfree := hattributes.lookup_expectedTag
        exact Or.inr ⟨(), htag, Or.inr ⟨_, ⟨_, hexpects, fun _ => hfree, rfl⟩, Or.inr ⟨_,
          (ofFields_expectedFields_eq_valid_iff fun _ => hfree).mpr ⟨hattributes, rfl⟩,
          Or.inl ⟨_, _, _, hnames, hbefore, hname, rfl⟩⟩⟩⟩

/-! ## What is accepted -/

theorem expectRoot_eq_ok_iff {tag : String} {root : Element} {done : Unit} :
    expectRoot resource tag root = .ok done ↔ root.tag = tag := by
  unfold expectRoot
  by_cases htag : root.tag = tag
  · simp [htag]
  · simp [htag, fail]

theorem expectRoot_eq_error_iff {tag : String} {root : Element} {failure : Failure} :
    expectRoot resource tag root = .error failure ↔
      root.tag ≠ tag ∧ failure = .document (.wrongRoot tag root.tag) resource := by
  unfold expectRoot
  by_cases htag : root.tag = tag
  · simp [htag]
  · simp [htag, fail, eq_comm]

theorem assertsOfElement_eq_ok_iff {root : Element} {asserts : List AssertCase} :
    assertsOfElement registry resource root = .ok asserts ↔
      root.tag = "sql-asserts" ∧
        List.Forall₂ (AcceptedAs registry) root.children asserts := by
  simp only [assertsOfElement, Results.bind_eq_ok_iff, expectRoot_eq_ok_iff,
    Results.mapM_eq_ok_iff, assertOfElement_eq_ok_iff, exists_const]

theorem assertsOfElement_eq_error_iff {root : Element} {failure : Failure} :
    assertsOfElement registry resource root = .error failure ↔
      (root.tag ≠ "sql-asserts" ∧
        failure = .document (.wrongRoot "sql-asserts" root.tag) resource) ∨
      (root.tag = "sql-asserts" ∧ ∃ before e after, root.children = before ++ e :: after ∧
        (∀ earlier ∈ before, ∃ a, AcceptedAs registry earlier a) ∧
        Offence registry resource e failure) := by
  simp only [assertsOfElement, Results.bind_eq_error_iff, expectRoot_eq_ok_iff,
    expectRoot_eq_error_iff, Results.mapM_eq_error_iff, assertOfElement_eq_ok_iff,
    assertOfElement_eq_error_iff, exists_const]

theorem not_acceptedAs_of_expected_attribute {pair : String × String}
    (hpair : pair ∈ e.attributes)
    (hname : pair.1 = "sharding-rule-assertions" ∨ pair.1 = "sharding_rule_assertions")
    (a : AssertCase) : ¬ AcceptedAs registry e a := by
  intro haccepted
  have hallowed := haccepted.hasAttributes.noOthers pair hpair
  rcases hname with hname | hname
  · simp [hname] at hallowed
  · simp [hname] at hallowed

theorem ofElements_eq_map (es : List Element) : Node.ofElements es = es.map Node.ofElement := by
  induction es with
  | nil => rfl
  | cons e es ih => rw [Node.ofElements, ih, List.map_cons]

/-- An element tree is accepted exactly if it has the format of a document of assertions, and then
gives one assertion for each child of the root, in order, with all that is in the child of its
element.  Otherwise the root is reported or, if the root is right, the first element that is not
accepted, for the first check that it fails.  An attribute with the name of the child is never
accepted. -/
theorem assertsOfElement_accepts_format (registry : Registry) (resource : Value)
    (root : Element) :
    (∀ asserts, assertsOfElement registry resource root = .ok asserts ↔
      root.tag = "sql-asserts" ∧
        List.Forall₂ (AcceptedAs registry) root.children asserts) ∧
    (∀ child, Node.ofElement child = ⟨child.tag, child.attributes, Node.textOf child.text,
      child.children.map Node.ofElement⟩) ∧
    (∀ failure, assertsOfElement registry resource root = .error failure ↔
      (root.tag ≠ "sql-asserts" ∧
        failure = .document (.wrongRoot "sql-asserts" root.tag) resource) ∨
      (root.tag = "sql-asserts" ∧ ∃ before e after, root.children = before ++ e :: after ∧
        (∀ earlier ∈ before, ∃ a, AcceptedAs registry earlier a) ∧
        Offence registry resource e failure)) ∧
    (∀ e ∈ root.children, ∀ pair ∈ e.attributes,
      pair.1 = "sharding-rule-assertions" ∨ pair.1 = "sharding_rule_assertions" →
        ∀ asserts, assertsOfElement registry resource root ≠ .ok asserts) := by
  refine ⟨fun _ => assertsOfElement_eq_ok_iff, ?_, fun _ => assertsOfElement_eq_error_iff, ?_⟩
  · intro child
    cases child with
    | mk tag attributes text children => rw [Node.ofElement, ofElements_eq_map]
  · intro e he pair hpair hname asserts hread
    obtain ⟨-, haccepted⟩ := assertsOfElement_eq_ok_iff.mp hread
    obtain ⟨a, -, ha⟩ := Results.exists_right_of_mem haccepted he
    exact not_acceptedAs_of_expected_attribute hpair hname a ha

/-- An assertion with all that it may have, next to one with as little as it may have; and an
assertion that has an attribute with the other name of its child. -/
theorem assertsOfElement_accepts_format_of_all_and_little :
    assertsOfElement .standard "a.xml" ⟨"sql-asserts", [], "",
      [⟨"sql-assert", [("types", " H2,,MySQL"), ("sql", "%s"), ("id", "a")], "text",
          [⟨"sharding-rule-assertions", [("n", "1")], " x ", [⟨"table", [], " ", []⟩]⟩]⟩,
        ⟨"sql-assert", [("id", "a"), ("sql", "")], "", []⟩]⟩ =
      .ok [⟨"a", "%s", some " H2,,MySQL",
          some ⟨"sharding-rule-assertions", [("n", "1")], some "x", [⟨"table", [], none, []⟩]⟩⟩,
        ⟨"a", "", none, none⟩] ∧
    ∀ asserts, assertsOfElement .standard "a.xml" ⟨"sql-asserts", [], "",
      [⟨"sql-assert", [("id", "a"), ("sql", ""), ("sharding_rule_assertions", "")], "",
        [⟨"sharding-rule-assertions", [], "", []⟩]⟩]⟩ ≠ .ok asserts := by
  constructor
  · rw [(assertsOfElement_accepts_format _ _ _).1]
    refine ⟨rfl, .cons ⟨rfl, Or.inr ⟨_, rfl, rfl, ?_⟩, ?_, by decide⟩
      (.cons ⟨rfl, Or.inl ⟨rfl, rfl⟩, ?_, by decide⟩ .nil)⟩
    · rfl
    · exact ⟨rfl, by decide, rfl, rfl, by decide⟩
    · exact ⟨rfl, by decide, rfl, rfl, by decide⟩
  · exact (assertsOfElement_accepts_format _ _ _).2.2.2 _ (List.mem_singleton.mpr rfl)
      ("sharding_rule_assertions", "") (by decide) (Or.inr rfl)

/-- The child takes the name that is looked for first; an attribute with the other name is then one
that no assertion has. -/
example :
    assertsOfElement .standard "a.xml" ⟨"sql-asserts", [], "",
      [⟨"sql-assert", [("id", "a"), ("sql", ""), ("sharding_rule_assertions", "")], "",
        [⟨"sharding-rule-assertions", [], "", []⟩]⟩]⟩ =
      .error (.document (.invalidRecord AssertCase.kind
        [⟨.unknownField, [.field "sharding_rule_assertions"]⟩]) "a.xml") := rfl

end SqlFixtures.Document
