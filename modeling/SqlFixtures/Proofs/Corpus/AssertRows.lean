import SqlFixtures.Corpus.Assertions
import SqlFixtures.Proofs.Dialect.Names
import SqlFixtures.Proofs.Document.AssertFormat
import SqlFixtures.Proofs.Keyed
import SqlFixtures.Proofs.Logging.Logged
import Mathlib.Tactic

/-!
# Rows of assertions

The rows of a category are those of all its documents, or there are none: the first document that
cannot be read makes loading fail as reading it does.  An assertion that was read names only
database types that the registry knows, so making its row, which looks them up once more, cannot
fail.
-/

namespace SqlFixtures

open Document (AcceptedAs)
open Record (AssertCase)

theorem Registry.member?_eq_some_of_knows {registry : Registry} {name : String}
    (hknown : registry.Knows name) : registry.member? name = some (registry.memberOf name) := by
  obtain ⟨member, hmember⟩ := exists_member?_iff.mpr hknown
  rw [memberOf, hmember]
  rfl

namespace AssertRow

variable {registry : Registry} {resource : Resource}

/-- The assertions of a document, if it can be opened and read. -/
def assertsOf (registry : Registry) (resource : Resource) : Except Failure (List AssertCase) := do
  Document.readAsserts registry resource.name (← resource.content)

/-- The row of an assertion that names only known database types. -/
def rowOf (registry : Registry) (a : AssertCase) : AssertRow :=
  ⟨a.id, a.sql, Keyed.sortedDistinct (a.dialectNames.map registry.memberOf), a.expected⟩

theorem ofAssertion_eq_ok_iff {a : AssertCase} {row : AssertRow} :
    ofAssertion registry a = .ok row ↔
      (∀ name ∈ a.dialectNames, registry.Knows name) ∧ row = rowOf registry a := by
  simp only [ofAssertion, Results.bind_eq_ok_iff, Registry.resolveAll_eq_ok_iff]
  constructor
  · rintro ⟨_, ⟨hknown, rfl⟩, ⟨⟩⟩
    exact ⟨hknown, rfl⟩
  · rintro ⟨hknown, rfl⟩
    exact ⟨_, ⟨hknown, rfl⟩, rfl⟩

theorem knows_of_assertsOf {asserts : List AssertCase}
    (hread : assertsOf registry resource = .ok asserts) {a : AssertCase} (ha : a ∈ asserts) :
    ∀ name ∈ a.dialectNames, registry.Knows name := by
  obtain ⟨bytes, -, hasserts⟩ := Results.bind_eq_ok_iff.mp hread
  obtain ⟨root, -, helements⟩ := Results.bind_eq_ok_iff.mp hasserts
  obtain ⟨-, haccepted⟩ := Document.assertsOfElement_eq_ok_iff.mp helements
  obtain ⟨e, -, hacceptedAs⟩ := Results.exists_left_of_mem haccepted ha
  exact hacceptedAs.known

theorem mapM_ofAssertion_of_assertsOf {asserts : List AssertCase}
    (hread : assertsOf registry resource = .ok asserts) :
    asserts.mapM (ofAssertion registry) = .ok (asserts.map (rowOf registry)) :=
  (Results.mapM_eq_ok_iff_map fun _ _ => ofAssertion_eq_ok_iff).mpr
    ⟨fun _ ha => knows_of_assertsOf hread ha, rfl⟩

/-- The rows of a document fail only where reading the document does. -/
theorem ofResource_eq (registry : Registry) (resource : Resource) :
    ofResource registry resource =
      (assertsOf registry resource).map (List.map (rowOf registry)) := by
  have hsteps : ofResource registry resource =
      assertsOf registry resource >>= fun asserts => asserts.mapM (ofAssertion registry) := by
    rw [ofResource, assertsOf]
    cases resource.content with
    | error failure => rfl
    | ok bytes => rfl
  rw [hsteps]
  cases hread : assertsOf registry resource with
  | error failure => rfl
  | ok asserts => exact mapM_ofAssertion_of_assertsOf hread

theorem ofResources_eq (registry : Registry) (resources : List Resource) :
    ofResources registry resources =
      (resources.mapM (assertsOf registry)).map fun blocks =>
        blocks.flatten.map (rowOf registry) := by
  have hrows : resources.mapM (ofResource registry) =
      (resources.mapM (assertsOf registry)).map (List.map (List.map (rowOf registry))) := by
    rw [← Results.mapM_map_eq, funext (ofResource_eq registry)]
  rw [ofResources, hrows]
  cases resources.mapM (assertsOf registry) with
  | error failure => rfl
  | ok blocks => simp [Except.map, bind, Except.bind, pure, Except.pure]

/-! ## The database types of a row -/

section

variable {asserts : List AssertCase} {a : AssertCase}

theorem mem_databaseTypes_iff (hread : assertsOf registry resource = .ok asserts) (ha : a ∈ asserts)
    {member : String} :
    member ∈ (rowOf registry a).databaseTypes ↔
      ∃ name ∈ a.dialectNames, registry.member? name = some member := by
  rw [rowOf, Keyed.mem_sortedDistinct, List.mem_map]
  constructor
  · rintro ⟨name, hname, rfl⟩
    exact ⟨name, hname, Registry.member?_eq_some_of_knows (knows_of_assertsOf hread ha name hname)⟩
  · rintro ⟨name, hname, hmember⟩
    exact ⟨name, hname, by rw [Registry.memberOf, hmember, Option.getD_some]⟩

theorem databaseTypes_eq_nil_iff :
    (rowOf registry a).databaseTypes = [] ↔ Dialect.namesNothing a.types := by
  rw [rowOf, Keyed.sortedDistinct_eq_nil_iff, List.map_eq_nil_iff, AssertCase.dialectNames,
    Dialect.names_eq_nil_iff]

end

/-! ## Loading -/

variable {files : Files.Tree} {location : Files.Path} {category ending : Value}

theorem result_load_eq_bind (files : Files.Tree) (location : Files.Path) (category : Value)
    (registry : Registry) (ending : Value) :
    (load files location category registry ending).result =
      (Source.probe files location .none ending).result >>= fun source =>
        (source.list files category).result >>= ofResources registry := by
  simp only [load, Logged.result_bind]
  congr 1
  funext source
  congr 1
  funext resources
  cases hrows : ofResources registry resources with
  | error failure => rfl
  | ok rows => rfl

theorem result_load {log : List LogEntry} {resources : List Resource}
    (hlisted : (Source.probe files location .none ending >>= fun source =>
      source.list files category) = ⟨log, .ok resources⟩) (registry : Registry) :
    (load files location category registry ending).result = ofResources registry resources := by
  obtain ⟨source, hsource, hresources⟩ := Results.bind_eq_ok_iff.mp
    ((Logged.result_bind _ _).symm.trans (congrArg Logged.result hlisted))
  rw [result_load_eq_bind, hsource]
  change (source.list files category).result >>= ofResources registry = _
  rw [hresources]
  rfl

/-- Where the documents of a category can be listed, loading it gives the rows of all assertions, in
the order of the documents and within them, or fails as reading the first unreadable document does.
A row that belongs to an assertion that was read can be made, and has the members that the
assertion names, each once. -/
theorem load_whole_or_not_at_all {log : List LogEntry} {resources : List Resource}
    (hlisted : (Source.probe files location .none ending >>= fun source =>
      source.list files category) = ⟨log, .ok resources⟩) (registry : Registry) :
    (∀ rows, (load files location category registry ending).result = .ok rows ↔
      ∃ blocks, List.Forall₂ (fun resource asserts =>
          assertsOf registry resource = .ok asserts) resources blocks ∧
        rows = blocks.flatten.map (rowOf registry)) ∧
    (∀ failure, (load files location category registry ending).result = .error failure ↔
      ∃ before resource after, resources = before ++ resource :: after ∧
        (∀ earlier ∈ before, ∃ asserts, assertsOf registry earlier = .ok asserts) ∧
        assertsOf registry resource = .error failure) ∧
    ∀ resource ∈ resources, ∀ asserts, assertsOf registry resource = .ok asserts →
      ∀ a ∈ asserts,
        ofAssertion registry a = .ok (rowOf registry a) ∧
        (∀ member, member ∈ (rowOf registry a).databaseTypes ↔
          ∃ name ∈ a.dialectNames, registry.member? name = some member) ∧
        (rowOf registry a).databaseTypes.Nodup ∧
        ((rowOf registry a).databaseTypes = [] ↔ Dialect.namesNothing a.types) := by
  rw [result_load hlisted, ofResources_eq]
  refine ⟨fun rows => ?_, fun failure => ?_, ?_⟩
  · simp only [Results.map_eq_ok_iff, Results.mapM_eq_ok_iff]
  · rw [Results.map_eq_error_iff, Results.mapM_eq_error_iff]
  · intro resource _ asserts hread a ha
    exact ⟨ofAssertion_eq_ok_iff.mpr ⟨knows_of_assertsOf hread ha, rfl⟩,
      fun member => mem_databaseTypes_iff hread ha,
      Keyed.nodup_sortedDistinct _, databaseTypes_eq_nil_iff⟩

/-! ## Names of one member -/

namespace Aliases

def known : Registry :=
  .ofDeclarations [("MySQL", .text "mysql"), ("MariaDB", .text "mysql"), ("H2", .text "h2")]

def document : List UInt8 :=
  ("<sql-asserts><sql-assert id='a' sql='s' types='MariaDB, MySQL,H2,MariaDB'/>" ++
    "<sql-assert id='a' sql='t' types=' ,'/></sql-asserts>").toUTF8.toList

def tree : Files.Tree := .directory [("r", .directory [("asserts", .directory
  [("b.xml", .file document), ("notes", .directory [("a.xml", .file document)])])])]

def listed : List Resource :=
  [⟨"r/asserts/b.xml", .ok document⟩, ⟨"r/asserts/notes/a.xml", .ok document⟩]

/-- Both assertions are read, from either document. -/
theorem exists_assertsOf {resource : Resource} (hresource : resource ∈ listed) :
    ∃ asserts, assertsOf known resource = .ok asserts ∧
      (asserts.map (rowOf known)).map (fun row => (row.sql, row.databaseTypes)) =
        [("s", ["H2", "MySQL"]), ("t", [])] := by
  have hread : ∀ resource ∈ listed, (assertsOf known resource).toOption.map (fun asserts =>
      (asserts.map (rowOf known)).map fun row => (row.sql, row.databaseTypes)) =
        some [("s", ["H2", "MySQL"]), ("t", [])] := by
    decide +kernel
  obtain ⟨asserts, hsome, htypes⟩ := Option.map_eq_some_iff.mp (hread resource hresource)
  exact ⟨asserts, Results.toOption_eq_some_iff.mp hsome, htypes⟩

end Aliases

/-- Two documents of the same two assertions: the rows of both are kept, and the database types of a
row are the members behind the names. -/
theorem load_whole_or_not_at_all_of_aliases :
    ∃ log, (Source.probe Aliases.tree (.ofString "r") .none (.text ".xml") >>= fun source =>
        source.list Aliases.tree (.text "asserts")) = ⟨log, .ok Aliases.listed⟩ ∧
      ∃ rows, (load Aliases.tree (.ofString "r") (.text "asserts") Aliases.known
          (.text ".xml")).result = .ok rows ∧
        rows.map (fun row => (row.sql, row.databaseTypes)) =
          [("s", ["H2", "MySQL"]), ("t", []), ("s", ["H2", "MySQL"]), ("t", [])] := by
  have hlisted : (Source.probe Aliases.tree (.ofString "r") .none (.text ".xml") >>= fun source =>
      source.list Aliases.tree (.text "asserts")) = ⟨_, .ok Aliases.listed⟩ := rfl
  obtain ⟨first, hfirst, hfirstTypes⟩ := Aliases.exists_assertsOf (List.mem_cons_self ..)
  obtain ⟨second, hsecond, hsecondTypes⟩ :=
    Aliases.exists_assertsOf (List.mem_cons_of_mem _ (List.mem_cons_self ..))
  refine ⟨_, hlisted, _, ((load_whole_or_not_at_all hlisted _).1 _).mpr
    ⟨_, .cons hfirst (.cons hsecond .nil), rfl⟩, ?_⟩
  rw [List.flatten_cons, List.flatten_cons, List.flatten_nil, List.append_nil, List.map_append,
    List.map_append, hfirstTypes, hsecondTypes]
  rfl

end AssertRow

end SqlFixtures
