import SqlFixtures.Proofs.Corpus.StrictMode
import Mathlib.Tactic

/-!
# The order of documents

Whether a build succeeds does not depend on how the documents are called or in which order they are
listed: each of them has to be readable, and in strict mode no id may be repeated among all their
cases.  Nor does the order change the ids or the number of replacements, which is the number of
cases less the number of ids.  Only the cases of repeated ids depend on it, so that without such ids
documents make up one and the same corpus in any order.
-/

namespace SqlFixtures

open Record (Case)

/-! ## The cases of documents -/

/-- The cases of a document, if it can be opened and read. -/
def Resource.cases? (resource : Resource) : Option (List Case) :=
  resource.content.toOption.bind fun bytes => (Document.readCases .none bytes).toOption

theorem Resource.cases?_eq_some_iff {resource : Resource} {cases : List Case} :
    resource.cases? = some cases ↔ History.casesOf resource = .ok cases := by
  rw [cases?, History.casesOf, Results.bind_eq_ok_iff, Option.bind_eq_some_iff]
  simp only [Results.toOption_eq_some_iff]
  constructor
  · rintro ⟨bytes, hbytes, hread⟩
    exact ⟨bytes, hbytes, Document.readCases_of_readCases hread⟩
  · rintro ⟨bytes, hbytes, hread⟩
    exact ⟨bytes, hbytes, Document.readCases_of_readCases hread⟩

def allCases (resources : List Resource) : List Case :=
  resources.flatMap fun resource => resource.cases?.getD []

/-- The same contents in any order, under any names. -/
def SameContents (first second : List Resource) : Prop :=
  (first.map (·.content)).Perm (second.map (·.content))

theorem SameContents.perm_cases? {first second : List Resource}
    (hsame : SameContents first second) :
    (first.map Resource.cases?).Perm (second.map Resource.cases?) := by
  have hperm := hsame.map fun content => content.toOption.bind fun bytes =>
    (Document.readCases .none bytes).toOption
  rw [List.map_map, List.map_map] at hperm
  exact hperm

theorem SameContents.perm_allCases {first second : List Resource}
    (hsame : SameContents first second) : (allCases first).Perm (allCases second) := by
  have hflat : ∀ resources, allCases resources =
      (resources.map Resource.cases?).flatMap (·.getD []) := by
    intro resources
    rw [allCases, List.flatMap_map]
  rw [hflat, hflat]
  exact hsame.perm_cases?.flatMap_right _

theorem SameContents.forall_isSome_iff {first second : List Resource}
    (hsame : SameContents first second) :
    (∀ resource ∈ first, resource.cases?.isSome) ↔
      ∀ resource ∈ second, resource.cases?.isSome := by
  have hall : ∀ resources : List Resource, (∀ resource ∈ resources, resource.cases?.isSome) ↔
      ∀ cases ∈ resources.map Resource.cases?, cases.isSome := by
    intro resources
    rw [List.forall_mem_map]
  rw [hall, hall]
  simp only [hsame.perm_cases?.mem_iff]

theorem allCases_cons {resource : Resource} {cases : List Case}
    (hcases : resource.cases? = some cases) (resources : List Resource) :
    allCases (resource :: resources) = cases ++ allCases resources := by
  rw [allCases, List.flatMap_cons, hcases]
  rfl

/-! ## The definitions of documents -/

namespace Definition

theorem readable_and_definedCases_of_ofResources {resources : List Resource}
    {definitions : List Definition} (hread : ofResources resources = .ok definitions) :
    (∀ resource ∈ resources, resource.cases?.isSome) ∧
      definitions.map (·.definedCase) = allCases resources := by
  obtain ⟨blocks, hblocks, rfl⟩ := ofResources_eq_ok_iff.mp hread
  clear hread
  induction hblocks with
  | nil => exact ⟨by simp, rfl⟩
  | cons hhead _ ih =>
      obtain ⟨cases, hcases, rfl⟩ := ofResource_eq_ok_iff.mp hhead
      have hsome := Resource.cases?_eq_some_iff.mpr hcases
      obtain ⟨hreadable, hdefined⟩ := ih
      refine ⟨List.forall_mem_cons.mpr ⟨by rw [hsome]; rfl, hreadable⟩, ?_⟩
      rw [List.flatten_cons, List.map_append, List.map_map, hdefined, allCases_cons hsome]
      exact congrArg (· ++ _) (List.map_id _)

theorem exists_ofResources_iff {resources : List Resource} :
    (∃ definitions, ofResources resources = .ok definitions) ↔
      ∀ resource ∈ resources, resource.cases?.isSome := by
  constructor
  · rintro ⟨definitions, hread⟩
    exact (readable_and_definedCases_of_ofResources hread).1
  · intro hreadable
    apply exists_ofResources_of_forall
    intro resource hresource
    obtain ⟨cases, hcases⟩ := Option.isSome_iff_exists.mp (hreadable resource hresource)
    exact ⟨cases, Resource.cases?_eq_some_iff.mp hcases⟩

theorem ids_of_ofResources {resources : List Resource} {definitions : List Definition}
    (hread : ofResources resources = .ok definitions) :
    ids definitions = (allCases resources).map (·.id) := by
  rw [← (readable_and_definedCases_of_ofResources hread).2, List.map_map]
  rfl

end Definition

/-! ## The corpus of documents -/

namespace Corpus

def ofCases (name : Value) (cases : List Case) : Corpus :=
  ofEntries name (cases.map fun c => (c.id, c))

theorem corpus_eq_ofCases (name : Value) {resources : List Resource}
    {definitions : List Definition} (hread : Definition.ofResources resources = .ok definitions) :
    Definition.corpus name definitions = ofCases name (allCases resources) := by
  rw [ofCases, ← (Definition.readable_and_definedCases_of_ofResources hread).2, List.map_map]
  rfl

/-- Without repeated ids, the order of the cases does not matter. -/
theorem ofCases_eq_of_perm (name : Value) {first second : List Case} (hperm : first.Perm second)
    (hdistinct : (first.map (·.id)).Nodup) : ofCases name first = ofCases name second := by
  have hkeys : ((first.map fun c => (c.id, c)).map (·.1)).Nodup := by
    rwa [List.map_map]
  rw [ofCases, ofCases, ofEntries, ofEntries, Keyed.ofList_eq_of_perm hkeys (hperm.map _)]

section

variable {resources : List Resource} {location : String} {category : Value} {strict : Bool}
  {corpus : Corpus}

theorem exists_buildFrom_lax_iff (location : String) (category : Value)
    (resources : List Resource) :
    (∃ corpus, (buildFrom false location category resources).result = .ok corpus) ↔
      ∀ resource ∈ resources, resource.cases?.isSome := by
  rw [← Definition.exists_ofResources_iff]
  cases hread : Definition.ofResources resources with
  | ok definitions => simp [buildFrom_lax hread]
  | error failure =>
      have hfails := History.result_defineAll_lax_eq_error_iff.mpr hread
      simp [result_buildFrom, hfails, Except.map]

theorem exists_buildFrom_strict_iff (location : String) (category : Value)
    (resources : List Resource) :
    (∃ corpus, (buildFrom true location category resources).result = .ok corpus) ↔
      (∀ resource ∈ resources, resource.cases?.isSome) ∧
        ((allCases resources).map (·.id)).Nodup := by
  constructor
  · rintro ⟨corpus, hok⟩
    rcases Definition.distinct_or_exists_firstRefused resources with
      ⟨definitions, hread, hdistinct⟩ | ⟨failure, hrefused⟩
    · rw [← Definition.ids_of_ofResources hread]
      exact ⟨Definition.exists_ofResources_iff.mp ⟨definitions, hread⟩, hdistinct⟩
    · have hfails := History.result_defineAll_strict_eq_error_iff.mpr hrefused
      rw [result_buildFrom, hfails] at hok
      cases hok
  · rintro ⟨hreadable, hdistinct⟩
    obtain ⟨definitions, hread⟩ := Definition.exists_ofResources_iff.mpr hreadable
    rw [← Definition.ids_of_ofResources hread] at hdistinct
    exact ⟨_, congrArg Logged.result (buildFrom_of_distinct hread hdistinct true _ _)⟩

theorem readable_of_buildFrom
    (hbuild : (buildFrom strict location category resources).result = .ok corpus) :
    ∀ resource ∈ resources, resource.cases?.isSome := by
  cases strict with
  | false => exact (exists_buildFrom_lax_iff location category resources).mp ⟨corpus, hbuild⟩
  | true => exact ((exists_buildFrom_strict_iff location category resources).mp ⟨corpus, hbuild⟩).1

theorem eq_ofCases_of_buildFrom
    (hbuild : (buildFrom strict location category resources).result = .ok corpus) :
    corpus = ofCases category (allCases resources) := by
  obtain ⟨definitions, hread⟩ :=
    Definition.exists_ofResources_iff.mpr (readable_of_buildFrom hbuild)
  rw [← corpus_eq_ofCases category hread]
  cases strict with
  | false =>
      rw [buildFrom_lax hread] at hbuild
      exact (Except.ok.inj hbuild).symm
  | true =>
      have hdistinct :=
        ((exists_buildFrom_strict_iff location category resources).mp ⟨corpus, hbuild⟩).2
      rw [← Definition.ids_of_ofResources hread] at hdistinct
      rw [buildFrom_of_distinct hread hdistinct] at hbuild
      exact (Except.ok.inj hbuild).symm

end

section

variable {files : Files.Tree} {source : Source} {category : Value} {listing : List LogEntry}
  {resources : List Resource}

theorem exists_build_strict_iff (hlist : source.list files category = ⟨listing, .ok resources⟩) :
    (∃ corpus, (build files source category true).result = .ok corpus) ↔
      (∀ resource ∈ resources, resource.cases?.isSome) ∧
        ((allCases resources).map (·.id)).Nodup := by
  rw [result_build hlist]
  exact exists_buildFrom_strict_iff source.location category resources

theorem eq_ofCases_of_build (hlist : source.list files category = ⟨listing, .ok resources⟩)
    {strict : Bool} {corpus : Corpus}
    (hbuild : (build files source category strict).result = .ok corpus) :
    corpus = ofCases category (allCases resources) := by
  rw [result_build hlist] at hbuild
  exact eq_ofCases_of_buildFrom hbuild

end

/-! ## The same contents -/

section

variable {first second : List Resource} {location locationOther : String} {category : Value}

theorem exists_buildFrom_iff_of_sameContents (hsame : SameContents first second) (strict : Bool) :
    (∃ corpus, (buildFrom strict location category first).result = .ok corpus) ↔
      ∃ corpus, (buildFrom strict locationOther category second).result = .ok corpus := by
  have hids := (hsame.perm_allCases.map (·.id)).nodup_iff
  cases strict with
  | false => rw [exists_buildFrom_lax_iff, exists_buildFrom_lax_iff, hsame.forall_isSome_iff]
  | true =>
      rw [exists_buildFrom_strict_iff, exists_buildFrom_strict_iff, hsame.forall_isSome_iff, hids]

theorem buildFrom_of_sameContents_of_distinct (hsame : SameContents first second)
    (hdistinct : ((allCases first).map (·.id)).Nodup) {strict : Bool} {corpus : Corpus}
    (hbuild : (buildFrom strict location category first).result = .ok corpus)
    (strictOther : Bool) :
    (buildFrom strictOther locationOther category second).result = .ok corpus := by
  have hreadable := hsame.forall_isSome_iff.mp (readable_of_buildFrom hbuild)
  have hdistinctOther := (hsame.perm_allCases.map (·.id)).nodup_iff.mp hdistinct
  have hother : ∃ other,
      (buildFrom strictOther locationOther category second).result = .ok other := by
    cases strictOther with
    | false => exact (exists_buildFrom_lax_iff _ _ _).mpr hreadable
    | true => exact (exists_buildFrom_strict_iff _ _ _).mpr ⟨hreadable, hdistinctOther⟩
  obtain ⟨other, hother⟩ := hother
  rw [hother, eq_ofCases_of_buildFrom hother, eq_ofCases_of_buildFrom hbuild,
    ofCases_eq_of_perm category hsame.perm_allCases hdistinct]

end

/-! ## The same contents from two sources -/

section

variable {files others : Files.Tree} {source other : Source} {category : Value}
  {listing listingOther : List LogEntry} {first second : List Resource}

theorem exists_build_iff_of_sameContents
    (hlist : source.list files category = ⟨listing, .ok first⟩)
    (hlistOther : other.list others category = ⟨listingOther, .ok second⟩)
    (hsame : SameContents first second) (strict : Bool) :
    (∃ corpus, (build files source category strict).result = .ok corpus) ↔
      ∃ corpus, (build others other category strict).result = .ok corpus := by
  rw [result_build hlist, result_build hlistOther]
  exact exists_buildFrom_iff_of_sameContents hsame strict

theorem eq_of_sameContents
    (hlist : source.list files category = ⟨listing, .ok first⟩)
    (hlistOther : other.list others category = ⟨listingOther, .ok second⟩)
    (hsame : SameContents first second) (hdistinct : ((allCases first).map (·.id)).Nodup)
    {strict strictOther : Bool} {corpus corpusOther : Corpus}
    (hbuild : (build files source category strict).result = .ok corpus)
    (hbuildOther : (build others other category strictOther).result = .ok corpusOther) :
    corpus = corpusOther := by
  rw [eq_ofCases_of_build hlist hbuild, eq_ofCases_of_build hlistOther hbuildOther]
  exact ofCases_eq_of_perm category hsame.perm_allCases hdistinct

end

/-! ## Documents in another order -/

section

variable {first second : List Resource} {location locationOther : String} {category : Value}

def warningCount (log : List LogEntry) : Nat := log.countP fun entry => entry.level = .warning

theorem warningCount_notices (replacements : List (Definition × Definition)) :
    warningCount (History.notices replacements) = replacements.length := by
  unfold warningCount History.notices
  rw [List.countP_map]
  exact List.countP_eq_length.mpr fun replacement _ => rfl

theorem warningCount_add_size {corpus : Corpus}
    (hbuild : (buildFrom false location category first).result = .ok corpus) :
    warningCount (buildFrom false location category first).log + corpus.size =
      (allCases first).length := by
  obtain ⟨definitions, hread⟩ :=
    Definition.exists_ofResources_iff.mpr (readable_of_buildFrom hbuild)
  have hlog := buildFrom_lax hread location category
  have hsize := Definition.size_corpus_add_length_replacements category definitions
  have hcases := congrArg List.length (Definition.readable_and_definedCases_of_ofResources hread).2
  have hnotice : warningCount [builtNotice category first.length location
      (Definition.corpus category definitions).size] = 0 := rfl
  rw [List.length_map] at hcases
  rw [eq_ofCases_of_buildFrom hbuild, ← corpus_eq_ofCases category hread, hlog]
  unfold warningCount at hnotice ⊢
  rw [List.countP_append, hnotice]
  change warningCount (History.notices _) + 0 + _ = _
  rw [warningCount_notices]
  omega

theorem mem_keys_ofCases_iff {name : Value} {cases : List Case} {id : String} :
    id ∈ (ofCases name cases).keys ↔ id ∈ cases.map (·.id) := by
  rw [ofCases, mem_keys_ofEntries, List.map_map]
  rfl

theorem keys_ofCases_eq_of_perm (name : Value) {cases others : List Case}
    (hperm : cases.Perm others) : (ofCases name cases).keys = (ofCases name others).keys := by
  have hordered (cases : List Case) : (ofCases name cases).keys.Pairwise (· < ·) :=
    ordered_keys_ofEntries name _
  apply Keyed.eq_of_pairwise_lt (hordered cases) (hordered others)
  intro id
  rw [mem_keys_ofCases_iff, mem_keys_ofCases_iff]
  exact (hperm.map (·.id)).mem_iff

/-- Listed in another order, the same documents make a build succeed or fail as before, in either
mode; without strict mode it succeeds if all of them can be read, and then the corpus has the same
ids and as many replacements are logged.  If no id is repeated, the corpus is the same, whichever
mode it was built in. -/
theorem order_matters_for_repeated_ids (hperm : first.Perm second)
    (location locationOther : String) (category : Value) :
    (∀ strict, (∃ corpus, (buildFrom strict location category first).result = .ok corpus) ↔
      ∃ corpus, (buildFrom strict locationOther category second).result = .ok corpus) ∧
    ((∃ corpus, (buildFrom false location category first).result = .ok corpus) ↔
      ∀ resource ∈ first, resource.cases?.isSome) ∧
    (∀ corpus other, (buildFrom false location category first).result = .ok corpus →
      (buildFrom false locationOther category second).result = .ok other →
        corpus.keys = other.keys ∧
        warningCount (buildFrom false location category first).log =
          warningCount (buildFrom false locationOther category second).log) ∧
    (((allCases first).map (·.id)).Nodup → ∀ strict strictOther corpus,
      (buildFrom strict location category first).result = .ok corpus ↔
        (buildFrom strictOther locationOther category second).result = .ok corpus) := by
  have hsame : SameContents first second := hperm.map _
  have hsameOther : SameContents second first := hperm.symm.map _
  refine ⟨exists_buildFrom_iff_of_sameContents hsame,
    exists_buildFrom_lax_iff location category first, ?_, ?_⟩
  · intro corpus other hbuild hother
    have hkeys : corpus.keys = other.keys := by
      rw [eq_ofCases_of_buildFrom hbuild, eq_ofCases_of_buildFrom hother]
      exact keys_ofCases_eq_of_perm category hsame.perm_allCases
    have hsize : corpus.size = other.size := by
      have hlength := congrArg List.length hkeys
      unfold keys at hlength
      rwa [List.length_map, List.length_map] at hlength
    have hfirst := warningCount_add_size hbuild
    have hsecond := warningCount_add_size hother
    have hcases := hsame.perm_allCases.length_eq
    exact ⟨hkeys, by omega⟩
  · intro hdistinct strict strictOther corpus
    constructor
    · intro hbuild
      exact buildFrom_of_sameContents_of_distinct hsame hdistinct hbuild strictOther
    · intro hother
      have hdistinctOther := (hsame.perm_allCases.map (·.id)).nodup_iff.mp hdistinct
      exact buildFrom_of_sameContents_of_distinct hsameOther hdistinctOther hother strict

/-- The first document shares an id with the second and none with the third. -/
theorem order_matters_for_repeated_ids_of_swapped_documents :
    let document (name : String) (c : Case) : Resource := ⟨name, .ok (Document.writeCases [c])⟩
    let first := document "a.xml" ⟨"x", "1", none⟩
    let second := document "b.xml" ⟨"x", "2", none⟩
    let third := document "c.xml" ⟨"y", "3", none⟩
    let result strict documents := (buildFrom strict "memory" (.text "sql") documents).result
    let log documents := (buildFrom false "memory" (.text "sql") documents).log
    (∃ corpus other, result false [first, second] = .ok corpus ∧
      result false [second, first] = .ok other ∧ corpus.keys = other.keys ∧
      warningCount (log [first, second]) = warningCount (log [second, first])) ∧
    ∃ corpus, result false [first, third] = .ok corpus ∧ result true [third, first] = .ok corpus := by
  intro document first second third result log
  have hread : ∀ document ∈ [first, second, third], document.cases?.isSome := by decide +kernel
  have hdistinct : ((allCases [first, third]).map (·.id)).Nodup := by decide +kernel
  obtain ⟨hboth, hbuild, hsame, -⟩ := order_matters_for_repeated_ids
    (List.Perm.swap second first []) "memory" "memory" (.text "sql")
  obtain ⟨-, hbuildApart, -, hone⟩ := order_matters_for_repeated_ids
    (List.Perm.swap third first []) "memory" "memory" (.text "sql")
  obtain ⟨corpus, hcorpus⟩ := hbuild.mpr fun document hmem =>
    hread document (List.subset_append_left [first, second] [third] hmem)
  obtain ⟨other, hother⟩ := (hboth false).mp ⟨corpus, hcorpus⟩
  obtain ⟨apart, hapart⟩ := hbuildApart.mpr fun document hmem =>
    hread document ((by simp : [first, third] ⊆ [first, second, third]) hmem)
  obtain ⟨hkeys, hwarnings⟩ := hsame corpus other hcorpus hother
  exact ⟨⟨corpus, other, hcorpus, hother, hkeys, hwarnings⟩,
    apart, hapart, (hone hdistinct false true apart).mp hapart⟩

end

end Corpus

end SqlFixtures
