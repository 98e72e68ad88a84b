import SqlFixtures.Document.Write
import SqlFixtures.Proofs.Corpus.Access
import SqlFixtures.Proofs.Corpus.BuildLog
import SqlFixtures.Proofs.Corpus.Definitions
import Mathlib.Tactic

/-!
# The last definition wins

A corpus that is built without strict mode is determined by the list of all definitions: it holds
each id once, in order, with its last definition.  The log names the replacements one by one, and
every definition is either the first of its id or a replacement, which is how the number of cases
follows from the number of definitions.  A corpus that is built in strict mode is made from
definitions in the same way.
-/

namespace SqlFixtures

open Record (Case)

namespace Definition

def corpus (name : Value) (definitions : List Definition) : Corpus :=
  Corpus.ofEntries name (definitions.map entry)

theorem corpus_eq_history_corpus (name : Value) (definitions : List Definition) :
    History.corpus definitions.reverse name = corpus name definitions := by
  rw [History.corpus, List.reverse_reverse]
  rfl

theorem lookup_map_entry (id : String) (definitions : List Definition) :
    (definitions.map entry).lookup id =
      (definitions.find? fun d => d.id = id).map (·.definedCase) := by
  induction definitions with
  | nil => rfl
  | cons d definitions ih =>
      rw [List.map_cons, entry, Keyed.lookup_cons_eq, ih, List.find?_cons]
      by_cases hid : id = d.id
      · simp [hid]
      · simp [hid, Ne.symm hid]

theorem get?_corpus (name : Value) (definitions : List Definition) (id : String) :
    (corpus name definitions).get? id =
      (definitions.reverse.find? fun d => d.id = id).map (·.definedCase) := by
  change (Keyed.ofList (definitions.map entry)).lookup id = _
  rw [Keyed.lookup_ofList, ← List.map_reverse, lookup_map_entry]

theorem get?_corpus_of_last
    {name : Value} {before after : List Definition} {d : Definition}
    (hlast : ∀ later ∈ after, later.id ≠ d.id) :
    (corpus name (before ++ d :: after)).get? d.id = some d.definedCase := by
  have hnone : after.reverse.find? (fun later => later.id = d.id) = none := by
    rw [List.find?_eq_none]
    intro later hlater
    simpa using hlast later (List.mem_reverse.mp hlater)
  rw [get?_corpus, List.reverse_append, List.reverse_cons, List.append_assoc, List.find?_append,
    hnone]
  simp

theorem ordered_keys_corpus (name : Value) (definitions : List Definition) :
    (corpus name definitions).keys.Pairwise (· < ·) :=
  Corpus.ordered_keys_ofEntries name _

theorem mem_keys_corpus {name : Value} {definitions : List Definition} {id : String} :
    id ∈ (corpus name definitions).keys ↔ ∃ d ∈ definitions, d.id = id := by
  rw [corpus, Corpus.mem_keys_ofEntries, List.map_map, List.mem_map]
  rfl

theorem exists_of_mem_entries_corpus
    {name : Value} {definitions : List Definition} {pair : String × Case}
    (hmem : pair ∈ (corpus name definitions).entries) : ∃ d ∈ definitions, d.entry = pair :=
  List.mem_map.mp (Keyed.mem_of_mem_ofList hmem)

theorem latest?_eq_none_iff {definitions : List Definition} {id : String} :
    History.latest? definitions.reverse id = none ↔
      id ∉ (definitions.map entry).map (·.1) := by
  rw [History.latest?, List.find?_eq_none, List.map_map, List.mem_map]
  constructor
  · rintro hnone ⟨d, hd, hid⟩
    exact hnone d (List.mem_reverse.mpr hd) (decide_eq_true hid)
  · intro hnone d hd hid
    exact hnone ⟨d, List.mem_reverse.mp hd, of_decide_eq_true hid⟩

/-- Each definition is a replacement or the first of its id. -/
theorem size_corpus_add_length_replacements (name : Value) (definitions : List Definition) :
    (corpus name definitions).size + (replacements definitions).length =
      definitions.length := by
  change (Keyed.ofList (definitions.map entry)).length + _ = _
  rw [← History.replacementsAfter_nil]
  induction definitions using List.reverseRecOn with
  | nil => rfl
  | append_singleton definitions d ih =>
      rw [List.map_append, List.map_singleton, Keyed.length_ofList_concat, entry_fst,
        History.replacementsAfter_append, List.length_append, List.length_append,
        List.length_singleton, List.append_nil, History.replacementsAfter,
        History.replacementsAfter, List.append_nil]
      cases hlatest : History.latest? definitions.reverse d.id with
      | none =>
          have hnew := latest?_eq_none_iff.mp hlatest
          rw [if_neg hnew, Option.map_none, Option.toList_none, List.length_nil]
          omega
      | some earlier =>
          have hmem : d.id ∈ (definitions.map entry).map (·.1) := by
            by_contra hnew
            rw [latest?_eq_none_iff.mpr hnew] at hlatest
            cases hlatest
          rw [if_pos hmem, Option.map_some, Option.toList_some, List.length_singleton]
          omega

end Definition

namespace Corpus

section

variable {files : Files.Tree} {source : Source} {category : Value} {listing : List LogEntry}
  {resources : List Resource} {strict : Bool} {corpus : Corpus}

theorem result_buildFrom (strict : Bool) (location : String) (category : Value)
    (resources : List Resource) :
    (buildFrom strict location category resources).result =
      (History.defineAll strict [] resources).result.map fun history =>
        history.corpus category := by
  rw [buildFrom]
  obtain ⟨log, result⟩ := History.defineAll strict [] resources
  cases result with
  | ok history => rfl
  | error failure => rfl

theorem result_build (hlist : source.list files category = ⟨listing, .ok resources⟩)
    (strict : Bool) :
    (build files source category strict).result =
      (buildFrom strict source.location category resources).result := by
  rw [build, hlist, Logged.ok_bind]

theorem exists_definitions_of_build
    (hbuild : (build files source category strict).result = .ok corpus) :
    ∃ definitions, corpus = Definition.corpus category definitions := by
  cases hlist : source.list files category with
  | mk listing result =>
      cases result with
      | error failure =>
          rw [build, hlist, Logged.error_bind] at hbuild
          cases hbuild
      | ok resources =>
          rw [result_build hlist, result_buildFrom] at hbuild
          cases hdefined : (History.defineAll strict [] resources).result with
          | error failure =>
              rw [hdefined] at hbuild
              cases hbuild
          | ok history =>
              rw [hdefined] at hbuild
              refine ⟨history.reverse, ?_⟩
              rw [← Definition.corpus_eq_history_corpus, List.reverse_reverse]
              exact (Except.ok.inj hbuild).symm

theorem nodup_ids_of_build (hbuild : (build files source category strict).result = .ok corpus) :
    (corpus.cases.map (·.id)).Nodup := by
  obtain ⟨definitions, rfl⟩ := exists_definitions_of_build hbuild
  have hids : (Definition.corpus category definitions).cases.map (·.id) =
      (Definition.corpus category definitions).keys := by
    rw [cases, keys, List.map_map]
    apply List.map_congr_left
    intro pair hpair
    obtain ⟨d, -, rfl⟩ := Definition.exists_of_mem_entries_corpus hpair
    rfl
  rw [hids]
  exact nodup_keys_ofEntries category _

end

/-- Building without strict mode goes through all definitions of the listed documents. -/
theorem buildFrom_lax
    {resources : List Resource} {definitions : List Definition}
    (hread : Definition.ofResources resources = .ok definitions)
    (location : String) (category : Value) :
    buildFrom false location category resources =
      ⟨History.notices (Definition.replacements definitions) ++
          [builtNotice category resources.length location
            (Definition.corpus category definitions).size],
        .ok (Definition.corpus category definitions)⟩ := by
  rw [buildFrom, History.defineAll_lax hread, Logged.ok_bind, History.replacementsAfter_nil,
    List.append_nil, Definition.corpus_eq_history_corpus]
  rfl

/-- The corpus of a category holds the last definition of every id that its documents define, in
order of the ids, and the log names each replacement with the two resources involved. -/
theorem build_keeps_last_definitions
    {files : Files.Tree} {source : Source} {category : Value} {listing : List LogEntry}
    {resources : List Resource} {definitions : List Definition}
    (hlist : source.list files category = ⟨listing, .ok resources⟩)
    (hread : Definition.ofResources resources = .ok definitions) :
    ∃ corpus,
      build files source category false =
        ⟨listing ++
            (Definition.replacements definitions).map (fun r => r.1.notice r.2) ++
            [builtNotice category resources.length source.location corpus.size],
          .ok corpus⟩ ∧
      corpus.keys.Pairwise (· < ·) ∧
      (∀ id, id ∈ corpus.keys ↔ ∃ d ∈ definitions, d.definedCase.id = id) ∧
      (∀ pair ∈ corpus.entries, pair.1 = pair.2.id ∧ pair.1 ≠ "") ∧
      (∀ before d after, definitions = before ++ d :: after →
        (∀ later ∈ after, later.definedCase.id ≠ d.definedCase.id) →
        corpus.get? d.definedCase.id = some d.definedCase) ∧
      (Definition.replacements definitions).length ≤ definitions.length ∧
      corpus.size = definitions.length - (Definition.replacements definitions).length := by
  have hsize := Definition.size_corpus_add_length_replacements category definitions
  refine ⟨Definition.corpus category definitions, ?_, Definition.ordered_keys_corpus _ _,
    fun id => Definition.mem_keys_corpus, ?_, ?_, by omega, by omega⟩
  · rw [build, hlist, Logged.ok_bind, buildFrom_lax hread, List.append_assoc]
    rfl
  · intro pair hpair
    obtain ⟨d, hd, rfl⟩ := Definition.exists_of_mem_entries_corpus hpair
    exact ⟨rfl, Definition.id_ne_empty_of_ofResources hread hd⟩
  · rintro before d after rfl hlast
    exact Definition.get?_corpus_of_last hlast

/-- The third of these definitions replaces the first, in another document. -/
theorem build_keeps_last_definitions_of_two_documents :
    let first : Case := ⟨"x", "first", none⟩
    let second : Case := ⟨"a", "second", none⟩
    let third : Case := ⟨"x", "third", none⟩
    let source : Source := .memory
      [("sql", [("a.xml", Document.writeCases [first, second]),
        ("b.xml", Document.writeCases [third])])]
    ∃ corpus, build .empty source (.text "sql") false =
        ⟨[⟨.warning, "SQL case 'x' in b.xml replaces the one in a.xml"⟩,
          builtNotice (.text "sql") 2 "memory" corpus.size], .ok corpus⟩ ∧
      corpus.get? "x" = some third ∧ corpus.get? "a" = some second ∧ corpus.size = 2 := by
  intro first second third source
  have hlist : source.list .empty (.text "sql") =
      ⟨[], .ok [⟨"a.xml", .ok (Document.writeCases [first, second])⟩,
        ⟨"b.xml", .ok (Document.writeCases [third])⟩]⟩ := rfl
  have hread : Definition.ofResources
      [⟨"a.xml", .ok (Document.writeCases [first, second])⟩,
        ⟨"b.xml", .ok (Document.writeCases [third])⟩] =
      .ok [⟨first, "a.xml"⟩, ⟨second, "a.xml"⟩, ⟨third, "b.xml"⟩] := by
    rw [← Results.toOption_eq_some_iff]
    decide +kernel
  have hnotices : (Definition.replacements [⟨first, "a.xml"⟩, ⟨second, "a.xml"⟩,
      ⟨third, "b.xml"⟩]).map (fun r => r.1.notice r.2) =
      [⟨.warning, "SQL case 'x' in b.xml replaces the one in a.xml"⟩] := by
    decide +kernel
  obtain ⟨corpus, hbuild, -, -, -, hlast, -, hsize⟩ := build_keeps_last_definitions hlist hread
  rw [hnotices] at hbuild
  refine ⟨corpus, hbuild, ?_, ?_, hsize⟩
  · exact hlast [⟨first, "a.xml"⟩, ⟨second, "a.xml"⟩] ⟨third, "b.xml"⟩ [] rfl (by simp)
  · exact hlast [⟨first, "a.xml"⟩] ⟨second, "a.xml"⟩ [⟨third, "b.xml"⟩] rfl
      (by simp [second, third])

end Corpus

end SqlFixtures
