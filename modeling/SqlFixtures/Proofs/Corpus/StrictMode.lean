import SqlFixtures.Proofs.Corpus.LastDefinition
import Mathlib.Tactic

/-!
# Strict mode

Strict mode and the default mode go through the same documents in the same order, and as long as no
id is repeated they do the same.  Both stop at a document that cannot be read.  Strict mode also
stops at a document that repeats an id; since a document is read as a whole before its cases are
looked at, its own fault comes before any repetition in it.

The development rests on one alternative about the listed documents, which does not mention the
builds: either all of them can be read and no id is repeated, or there is a first document at which
one of these breaks.
-/

namespace SqlFixtures

open Record (Case)

/-- Either nothing that is known is met again and nothing is met twice, or there is a first element
at which this happens. -/
theorem nodup_or_exists_repeated {α β : Type} {known : List β} (hknown : known.Nodup) (f : α → β)
    (as : List α) :
    (known ++ as.map f).Nodup ∨
      ∃ first a rest, as = first ++ a :: rest ∧ (known ++ first.map f).Nodup ∧
        f a ∈ known ++ first.map f := by
  induction as using List.reverseRecOn with
  | nil =>
      left
      simpa using hknown
  | append_singleton as a ih =>
      rcases ih with hnodup | ⟨first, b, rest, rfl, hfirst, hrepeated⟩
      · by_cases hmem : f a ∈ known ++ as.map f
        · exact Or.inr ⟨as, a, [], rfl, hnodup, hmem⟩
        · left
          rw [List.map_append, List.map_singleton, ← List.append_assoc]
          exact List.nodup_append.mpr ⟨hnodup, List.nodup_singleton _, by
            intro b hb c hc
            rw [List.mem_singleton.mp hc]
            exact fun heq => hmem (heq ▸ hb)⟩
      · right
        exact ⟨first, b, rest ++ [a], by simp, hfirst, hrepeated⟩

namespace Definition

def ids (definitions : List Definition) : List String := definitions.map id

@[simp] theorem ids_append (first second : List Definition) :
    ids (first ++ second) = ids first ++ ids second :=
  List.map_append

def inDocument (name : String) (cases : List Case) : List Definition :=
  cases.map fun c => ⟨c, name⟩

@[simp] theorem ids_inDocument (name : String) (cases : List Case) :
    ids (inDocument name cases) = cases.map (·.id) := by
  rw [ids, inDocument, List.map_map]
  rfl

/-- Why a document cannot follow on definitions in strict mode: it cannot be read, or it can and has
a first case whose id was defined before, by the definitions or in the document itself. -/
def Refuses (definitions : List Definition) (resource : Resource) (failure : Failure) : Prop :=
  History.casesOf resource = .error failure ∨
    ∃ first c rest, History.casesOf resource = .ok (first ++ c :: rest) ∧
      (ids definitions ++ first.map (·.id)).Nodup ∧
      c.id ∈ ids definitions ++ first.map (·.id) ∧
      failure = .duplicateCase c.id resource.name

/-- The failure of the first document that cannot follow on those before it. -/
def FirstRefused (resources : List Resource) (failure : Failure) : Prop :=
  ∃ before resource after definitions, resources = before ++ resource :: after ∧
    ofResources before = .ok definitions ∧ (ids definitions).Nodup ∧
    Refuses definitions resource failure

theorem ofResources_concat {resources : List Resource} {resource : Resource}
    {definitions : List Definition} {cases : List Case}
    (hread : ofResources resources = .ok definitions)
    (hcases : History.casesOf resource = .ok cases) :
    ofResources (resources ++ [resource]) =
      .ok (definitions ++ inDocument resource.name cases) := by
  obtain ⟨blocks, hblocks, rfl⟩ := ofResources_eq_ok_iff.mp hread
  have hlast : ofResource resource = .ok (inDocument resource.name cases) :=
    ofResource_eq_ok_iff.mpr ⟨cases, hcases, rfl⟩
  rw [ofResources_eq_ok_iff]
  refine ⟨blocks ++ [inDocument resource.name cases], ?_, by simp⟩
  exact List.rel_append hblocks (List.Forall₂.cons hlast List.Forall₂.nil)

/-- All documents can be read and no id is repeated, or there is a first document where one of these
breaks. -/
theorem distinct_or_exists_firstRefused (resources : List Resource) :
    (∃ definitions, ofResources resources = .ok definitions ∧ (ids definitions).Nodup) ∨
      ∃ failure, FirstRefused resources failure := by
  induction resources using List.reverseRecOn with
  | nil => exact Or.inl ⟨[], rfl, List.nodup_nil⟩
  | append_singleton resources resource ih =>
      rcases ih with ⟨definitions, hread, hdistinct⟩ | ⟨failure, hrefused⟩
      · cases hcases : History.casesOf resource with
        | error failure =>
            exact Or.inr ⟨failure, resources, resource, [], definitions, rfl, hread, hdistinct,
              Or.inl hcases⟩
        | ok cases =>
            rcases nodup_or_exists_repeated hdistinct (·.id) cases with
              hnodup | ⟨first, c, rest, rfl, hfirst, hrepeated⟩
            · left
              refine ⟨_, ofResources_concat hread hcases, ?_⟩
              simpa using hnodup
            · exact Or.inr ⟨_, resources, resource, [], definitions, rfl, hread, hdistinct,
                Or.inr ⟨first, c, rest, hcases, hfirst, hrepeated, rfl⟩⟩
      · obtain ⟨before, stopped, after, definitions, rfl, hrest⟩ := hrefused
        right
        exact ⟨failure, before, stopped, after ++ [resource], definitions, by simp, hrest⟩

theorem ofResources_eq_error_iff {resources : List Resource} {failure : Failure} :
    ofResources resources = .error failure ↔
      ∃ before resource after, resources = before ++ resource :: after ∧
        (∀ earlier ∈ before, ∃ cases, History.casesOf earlier = .ok cases) ∧
        History.casesOf resource = .error failure := by
  have hresource : ∀ resource, (∃ block, ofResource resource = .ok block) ↔
      ∃ cases, History.casesOf resource = .ok cases := by
    intro resource
    simp [ofResource_eq_ok_iff]
  have hfailure : ∀ resource, ofResource resource = .error failure ↔
      History.casesOf resource = .error failure := fun _ => Results.bind_pure_eq_error_iff
  have hflatten : ofResources resources = .error failure ↔
      resources.mapM ofResource = .error failure := Results.bind_pure_eq_error_iff
  simp only [hflatten, Results.mapM_eq_error_iff, hresource, hfailure]

theorem exists_ofResources_of_forall {resources : List Resource}
    (hall : ∀ resource ∈ resources, ∃ cases, History.casesOf resource = .ok cases) :
    ∃ definitions, ofResources resources = .ok definitions := by
  cases hread : ofResources resources with
  | ok definitions => exact ⟨definitions, rfl⟩
  | error failure =>
      obtain ⟨before, resource, after, rfl, -, hfails⟩ := ofResources_eq_error_iff.mp hread
      obtain ⟨cases, hcases⟩ := hall resource (by simp)
      rw [hfails] at hcases
      cases hcases

end Definition

namespace History

open Definition (ids inDocument FirstRefused)

theorem define_append (strict : Bool) (resource : String) (history : History)
    (first second : List Case) :
    define strict resource history (first ++ second) =
      define strict resource history first >>= fun next =>
        define strict resource next second := by
  induction first generalizing history with
  | nil => rfl
  | cons c first ih =>
      rw [List.cons_append, define, define, Logged.bind_assoc]
      congr 1
      funext _
      exact ih _

theorem defineAll_append (strict : Bool) (history : History) (first second : List Resource) :
    defineAll strict history (first ++ second) =
      defineAll strict history first >>= fun next => defineAll strict next second := by
  induction first generalizing history with
  | nil => rfl
  | cons resource first ih =>
      simp only [List.cons_append, defineAll, Logged.bind_assoc, ih]

theorem latest?_eq_none_of_not_mem_ids {definitions : List Definition} {id : String}
    (hnew : id ∉ ids definitions) : latest? definitions.reverse id = none := by
  rw [Definition.latest?_eq_none_iff, List.map_map]
  exact hnew

theorem exists_latest?_of_mem_ids {definitions : List Definition} {id : String}
    (hmem : id ∈ ids definitions) : ∃ earlier, latest? definitions.reverse id = some earlier := by
  rw [← Option.ne_none_iff_exists', ne_eq, Definition.latest?_eq_none_iff, List.map_map, not_not]
  exact hmem

/-! ## As long as no id is repeated -/

theorem define_of_distinct (strict : Bool) {resource : String} {before : List Definition}
    {cases : List Case} (hdistinct : (ids before ++ cases.map (·.id)).Nodup) :
    define strict resource before.reverse cases =
      ⟨[], .ok (before ++ inDocument resource cases).reverse⟩ := by
  induction cases generalizing before with
  | nil => simp [define, inDocument, pure, Logged.ofExcept]
  | cons c cases ih =>
      have hsplit : ids before ++ (c :: cases).map (·.id) =
          ids (before ++ [⟨c, resource⟩]) ++ cases.map (·.id) := by
        simp [ids, Definition.id]
      have hnew : c.id ∉ ids before := by
        intro hmem
        have hdisjoint := (List.nodup_append.mp hdistinct).2.2
        exact hdisjoint c.id hmem c.id (by simp) rfl
      have hnext := ih (hsplit ▸ hdistinct)
      rw [List.reverse_concat] at hnext
      rw [define, latest?_eq_none_of_not_mem_ids hnew]
      change define strict resource (⟨c, resource⟩ :: before.reverse) cases = _
      rw [hnext, List.append_assoc]
      rfl

theorem define_of_repeated {resource : String} {before : List Definition} {first rest : List Case}
    {c : Case} (hdistinct : (ids before ++ first.map (·.id)).Nodup)
    (hrepeated : c.id ∈ ids before ++ first.map (·.id)) :
    define true resource before.reverse (first ++ c :: rest) =
      Logged.fail (.duplicateCase c.id resource) := by
  have hmem : c.id ∈ ids (before ++ inDocument resource first) := by simpa using hrepeated
  obtain ⟨earlier, hearlier⟩ := exists_latest?_of_mem_ids hmem
  rw [define_append, define_of_distinct true hdistinct, Logged.ok_bind, define, hearlier]
  rfl

theorem defineAll_of_distinct (strict : Bool) (before : List Definition)
    {resources : List Resource} {definitions : List Definition}
    (hread : Definition.ofResources resources = .ok definitions)
    (hdistinct : (ids before ++ ids definitions).Nodup) :
    defineAll strict before.reverse resources = ⟨[], .ok (before ++ definitions).reverse⟩ := by
  obtain ⟨blocks, hblocks, rfl⟩ := Definition.ofResources_eq_ok_iff.mp hread
  clear hread
  induction hblocks generalizing before with
  | nil => simp [defineAll, pure, Logged.ofExcept]
  | @cons resource block resources blocks hhead _ ih =>
      obtain ⟨cases, hcases, rfl⟩ := Definition.ofResource_eq_ok_iff.mp hhead
      change (ids before ++ ids (inDocument resource.name cases ++ blocks.flatten)).Nodup
        at hdistinct
      change _ = (⟨[], .ok (before ++ (inDocument resource.name cases ++
        blocks.flatten)).reverse⟩ : Logged History)
      rw [Definition.ids_append, ← List.append_assoc] at hdistinct
      have hblock := (List.nodup_append.mp hdistinct).1
      rw [Definition.ids_inDocument] at hblock
      rw [← Definition.ids_append] at hdistinct
      rw [defineAll, hcases, Logged.ofExcept_ok_bind, define_of_distinct strict hblock,
        Logged.ok_bind, ih _ hdistinct, List.append_assoc, List.nil_append]

/-! ## Where it breaks -/

theorem defineAll_of_firstRefused {resources : List Resource} {failure : Failure}
    (hrefused : FirstRefused resources failure) :
    defineAll true [] resources = Logged.fail failure := by
  obtain ⟨before, resource, after, definitions, rfl, hread, hdistinct, hwhy⟩ := hrefused
  have hbefore : defineAll true [] before = ⟨[], .ok definitions.reverse⟩ :=
    defineAll_of_distinct true [] hread hdistinct
  rw [defineAll_append, hbefore, Logged.ok_bind, defineAll]
  rcases hwhy with hfails | ⟨first, c, rest, hcases, hfirst, hrepeated, rfl⟩
  · rw [hfails]
    rfl
  · rw [hcases, Logged.ofExcept_ok_bind, define_of_repeated hfirst hrepeated]
    rfl

theorem result_defineAll_strict_eq_error_iff {resources : List Resource} {failure : Failure} :
    (defineAll true [] resources).result = .error failure ↔ FirstRefused resources failure := by
  constructor
  · intro hresult
    rcases Definition.distinct_or_exists_firstRefused resources with
      ⟨definitions, hread, hdistinct⟩ | ⟨other, hrefused⟩
    · have hok := defineAll_of_distinct true [] hread hdistinct
      rw [List.reverse_nil] at hok
      rw [hok] at hresult
      cases hresult
    · have herror := defineAll_of_firstRefused hrefused
      rw [herror] at hresult
      cases hresult
      exact hrefused
  · intro hrefused
    rw [defineAll_of_firstRefused hrefused]
    rfl

theorem result_defineAll_lax_eq_error_iff {resources : List Resource} {failure : Failure} :
    (defineAll false [] resources).result = .error failure ↔
      Definition.ofResources resources = .error failure := by
  cases hread : Definition.ofResources resources with
  | ok definitions => simp [defineAll_lax hread]
  | error first =>
      obtain ⟨before, resource, after, rfl, hbefore, hfails⟩ :=
        Definition.ofResources_eq_error_iff.mp hread
      obtain ⟨definitions, hearlier⟩ := Definition.exists_ofResources_of_forall hbefore
      rw [defineAll_append, defineAll_lax hearlier, Logged.ok_bind, defineAll, hfails]
      rfl

end History

/-! ## The two builds -/

namespace Corpus

open Definition (ids FirstRefused)

variable {files : Files.Tree} {source : Source} {category : Value} {listing : List LogEntry}
  {resources : List Resource}

theorem result_build_eq_error_iff (hlist : source.list files category = ⟨listing, .ok resources⟩)
    (strict : Bool) (failure : Failure) :
    (build files source category strict).result = .error failure ↔
      (History.defineAll strict [] resources).result = .error failure := by
  rw [result_build hlist, result_buildFrom, Results.map_eq_error_iff]

theorem buildFrom_of_distinct {definitions : List Definition}
    (hread : Definition.ofResources resources = .ok definitions)
    (hdistinct : (ids definitions).Nodup) (strict : Bool) (location : String) (category : Value) :
    buildFrom strict location category resources =
      ⟨[builtNotice category resources.length location
          (Definition.corpus category definitions).size],
        .ok (Definition.corpus category definitions)⟩ := by
  have hdefined : History.defineAll strict [] resources = ⟨[], .ok definitions.reverse⟩ :=
    History.defineAll_of_distinct strict [] hread hdistinct
  rw [buildFrom, hdefined, Logged.ok_bind, Definition.corpus_eq_history_corpus]
  rfl

theorem build_of_distinct {definitions : List Definition}
    (hlist : source.list files category = ⟨listing, .ok resources⟩)
    (hread : Definition.ofResources resources = .ok definitions)
    (hdistinct : (ids definitions).Nodup) (strict : Bool) :
    build files source category strict =
      ⟨listing ++ [builtNotice category resources.length source.location
          (Definition.corpus category definitions).size],
        .ok (Definition.corpus category definitions)⟩ := by
  rw [build, hlist, Logged.ok_bind, buildFrom_of_distinct hread hdistinct]

/-- A strict build succeeds exactly if all documents can be read and no id is repeated, and then it
is the default build, with nothing to warn of.  Otherwise it fails at the first document that
cannot be read or repeats an id.  The default build fails only at a document that cannot be read. -/
theorem strict_build_refines_default
    (hlist : source.list files category = ⟨listing, .ok resources⟩) :
    ((∃ corpus, (build files source category true).result = .ok corpus) ↔
      ∃ definitions, Definition.ofResources resources = .ok definitions ∧
        (ids definitions).Nodup) ∧
    (∀ corpus, (build files source category true).result = .ok corpus →
      build files source category false = build files source category true ∧
        ∀ entry ∈ (build files source category false).log, entry.level ≠ .warning) ∧
    (∀ failure, (build files source category true).result = .error failure ↔
      FirstRefused resources failure) ∧
    (∀ failure, (build files source category false).result = .error failure ↔
      ∃ before resource after, resources = before ++ resource :: after ∧
        (∀ earlier ∈ before, ∃ cases, History.casesOf earlier = .ok cases) ∧
        History.casesOf resource = .error failure) := by
  have hstrict : ∀ failure, (build files source category true).result = .error failure ↔
      FirstRefused resources failure := by
    intro failure
    rw [result_build_eq_error_iff hlist, History.result_defineAll_strict_eq_error_iff]
  have hdistinct : ∀ corpus, (build files source category true).result = .ok corpus →
      ∃ definitions, Definition.ofResources resources = .ok definitions ∧
        (ids definitions).Nodup := by
    intro corpus hok
    rcases Definition.distinct_or_exists_firstRefused resources with hread | ⟨failure, hrefused⟩
    · exact hread
    · rw [(hstrict failure).mpr hrefused] at hok
      cases hok
  refine ⟨⟨?_, ?_⟩, ?_, hstrict, ?_⟩
  · rintro ⟨corpus, hok⟩
    exact hdistinct corpus hok
  · rintro ⟨definitions, hread, hnodup⟩
    exact ⟨_, congrArg Logged.result (build_of_distinct hlist hread hnodup true)⟩
  · intro corpus hok
    obtain ⟨definitions, hread, hnodup⟩ := hdistinct corpus hok
    have hbuild := build_of_distinct hlist hread hnodup
    refine ⟨(hbuild false).trans (hbuild true).symm, ?_⟩
    intro entry hentry
    have hdebug : ∀ entry ∈ listing, entry.level = .debug := by
      intro entry hlisted
      exact level_of_mem_log_list (by rwa [hlist])
    rw [hbuild false] at hentry
    rcases List.mem_append.mp hentry with hlisted | hnotice
    · simp [hdebug entry hlisted]
    · simp [List.mem_singleton.mp hnotice, builtNotice]
  · intro failure
    rw [result_build_eq_error_iff hlist, History.result_defineAll_lax_eq_error_iff,
      Definition.ofResources_eq_error_iff]

/-- The second document repeats an id and the third one is empty: strict mode stops at the second,
the default mode at the third. -/
theorem strict_build_refines_default_of_broken_third_document :
    let first : Case := ⟨"x", "first", none⟩
    let second : Case := ⟨"y", "second", none⟩
    let source : Source := .memory
      [("sql", [("a.xml", Document.writeCases [first]),
        ("b.xml", Document.writeCases [second, first]), ("c.xml", [])])]
    (build .empty source (.text "sql") true).result = .error (.duplicateCase "x" "b.xml") ∧
      (build .empty source (.text "sql") false).result =
        .error (.document .malformed "c.xml") := by
  intro first second source
  have hlist : source.list .empty (.text "sql") =
      ⟨[], .ok [⟨"a.xml", .ok (Document.writeCases [first])⟩,
        ⟨"b.xml", .ok (Document.writeCases [second, first])⟩, ⟨"c.xml", .ok []⟩]⟩ := rfl
  have hfirst : History.casesOf ⟨"a.xml", .ok (Document.writeCases [first])⟩ = .ok [first] := by
    rw [← Results.toOption_eq_some_iff]
    decide +kernel
  have hsecond : History.casesOf ⟨"b.xml", .ok (Document.writeCases [second, first])⟩ =
      .ok ([second] ++ first :: []) := by
    rw [← Results.toOption_eq_some_iff]
    decide +kernel
  have hthird : History.casesOf ⟨"c.xml", .ok []⟩ = .error (.document .malformed "c.xml") := rfl
  have hread : Definition.ofResources [⟨"a.xml", .ok (Document.writeCases [first])⟩] =
      .ok [⟨first, "a.xml"⟩] :=
    Definition.ofResources_concat (rfl : Definition.ofResources [] = .ok []) hfirst
  obtain ⟨-, -, hstrict, hdefault⟩ := strict_build_refines_default hlist
  constructor
  · rw [hstrict]
    exact ⟨_, _, _, _, rfl, hread, by decide, Or.inr ⟨_, _, _, hsecond, by decide, by decide, rfl⟩⟩
  · rw [hdefault]
    refine ⟨[_, _], _, [], rfl, ?_, hthird⟩
    simp [hfirst, hsecond]

end Corpus

end SqlFixtures
