import SqlFixtures.Loader.Run
import SqlFixtures.Proofs.Corpus.BuildLog
import Mathlib.Tactic

/-!
# Runs of a caching loader

A loader keeps the corpus of a category from the first build of it that succeeds.  Until then each
query on the category builds from the files as they are, and a build that fails changes nothing.
From then on each query is answered from that one corpus without a word, whatever happens to the
files, so that a run reports at most one build of each category.
-/

namespace SqlFixtures

/-! ## What queries are about -/

namespace Query

/-- The category whose corpus the query needs. -/
def category? : Query → Option Category
  | ask category _ => some category
  | same => some .supported
  | source => none

/-- What a loader of a source replies with the corpus that the query needs.  A second look at the
supported corpus always gives the same one. -/
def replyOf (source : Source) (corpus : Corpus) : Query → Except Failure Reply
  | ask _ question => question.replyOf corpus
  | same => .ok (.truth true)
  | .source => .ok (.source source)

end Query

namespace Loader

/-! ## One query -/

@[simp] theorem kept?_keep (loader : Loader) (corpus : Corpus) (asked category : Category) :
    (loader.keep corpus asked).kept? category =
      if category = asked then some corpus else loader.kept? category := by
  cases asked with
  | supported =>
      cases category with
      | supported => rfl
      | unsupported => rfl
  | unsupported =>
      cases category with
      | supported => rfl
      | unsupported => rfl

def built (files : Files.Tree) (loader : Loader) (category : Category) : Logged Corpus :=
  Corpus.build files loader.source (.text category.name) loader.strict

@[simp] theorem built_keep (files : Files.Tree) (loader : Loader) (corpus : Corpus)
    (asked category : Category) :
    (loader.keep corpus asked).built files category = loader.built files category := by
  cases asked with
  | supported => rfl
  | unsupported => rfl

@[simp] theorem source_keep (loader : Loader) (corpus : Corpus) (category : Category) :
    (loader.keep corpus category).source = loader.source := by
  cases category with
  | supported => rfl
  | unsupported => rfl

section

variable {files : Files.Tree} {loader : Loader} {query : Query} {category : Category}
  {log : List LogEntry} {corpus : Corpus}

theorem corpus_of_kept (hkept : loader.kept? category = some corpus) (files : Files.Tree) :
    loader.corpus files category = (loader, pure corpus) := by
  rw [Loader.corpus, hkept]

theorem corpus_of_built (hkept : loader.kept? category = none)
    (hbuilt : loader.built files category = ⟨log, .ok corpus⟩) :
    loader.corpus files category = (loader.keep corpus category, ⟨log, .ok corpus⟩) := by
  rw [built] at hbuilt
  simp only [Loader.corpus, hkept, hbuilt]

theorem corpus_of_failed {failure : Failure} (hkept : loader.kept? category = none)
    (hbuilt : loader.built files category = ⟨log, .error failure⟩) :
    loader.corpus files category = (loader, ⟨log, .error failure⟩) := by
  rw [built] at hbuilt
  simp only [Loader.corpus, hkept, hbuilt]

/-- A second look gives the corpus that was found at the first one, since that one is kept. -/
theorem answer_same {next : Loader}
    (hfound : loader.corpus files .supported = (next, ⟨log, .ok corpus⟩))
    (hkept : next.kept? .supported = some corpus) :
    loader.answer files .same = (next, ⟨log, .ok (.truth true)⟩) := by
  have hagain : Logged.map
      (fun second => Reply.truth (decide (corpus.entries = second.entries))) (pure corpus) =
        ⟨[], .ok (.truth true)⟩ := by
    change Logged.mk [] (.ok (Reply.truth (decide (corpus.entries = corpus.entries)))) = _
    rw [decide_eq_true rfl]
  simp only [answer, hfound, corpus_of_kept hkept, Logged.bind, hagain, List.append_nil]

theorem answer_of_kept (hquery : query.category? = some category)
    (hkept : loader.kept? category = some corpus) (files : Files.Tree) :
    loader.answer files query = (loader, .ofExcept (query.replyOf loader.source corpus)) := by
  cases query with
  | ask asked question =>
      cases hquery
      rw [answer, corpus_of_kept hkept]
      rfl
  | same =>
      cases hquery
      exact answer_same (corpus_of_kept hkept files) hkept
  | source => cases hquery

theorem answer_of_built (hquery : query.category? = some category)
    (hkept : loader.kept? category = none)
    (hbuilt : loader.built files category = ⟨log, .ok corpus⟩) :
    loader.answer files query =
      (loader.keep corpus category, ⟨log, query.replyOf loader.source corpus⟩) := by
  have hfound := corpus_of_built hkept hbuilt
  cases query with
  | ask asked question =>
      cases hquery
      rw [answer, hfound]
      simp [Logged.bind, Logged.ofExcept, Query.replyOf]
  | same =>
      cases hquery
      exact answer_same hfound (by rw [kept?_keep, if_pos rfl])
  | source => cases hquery

theorem answer_of_failed {failure : Failure} (hquery : query.category? = some category)
    (hkept : loader.kept? category = none)
    (hbuilt : loader.built files category = ⟨log, .error failure⟩) :
    loader.answer files query = (loader, ⟨log, .error failure⟩) := by
  have hfound := corpus_of_failed hkept hbuilt
  cases query with
  | ask asked question =>
      cases hquery
      rw [answer, hfound]
      rfl
  | same =>
      cases hquery
      simp only [answer, hfound]
      rfl
  | source => cases hquery

theorem answer_of_none (hquery : query.category? = none) (files : Files.Tree) (loader : Loader)
    (corpus : Corpus) :
    loader.answer files query = (loader, .ofExcept (query.replyOf loader.source corpus)) := by
  cases query with
  | ask category question => cases hquery
  | same => cases hquery
  | source => rfl

end

/-- What a query can do to a loader: nothing, or keep the corpus that was built for it. -/
theorem answer_cases (files : Files.Tree) (loader : Loader) (query : Query) :
    (∃ reply, loader.answer files query = (loader, reply) ∧
      ∀ category, builtCount category reply.log = 0) ∨
    ∃ asked log corpus, query.category? = some asked ∧ loader.kept? asked = none ∧
      loader.built files asked = ⟨log, .ok corpus⟩ ∧
      loader.answer files query =
        (loader.keep corpus asked, ⟨log, query.replyOf loader.source corpus⟩) ∧
      ∀ category, builtCount category log = if asked = category then 1 else 0 := by
  cases hquery : query.category? with
  | none => exact Or.inl ⟨_, answer_of_none hquery files loader ⟨"", []⟩, fun _ => rfl⟩
  | some asked =>
      cases hkept : loader.kept? asked with
      | some corpus => exact Or.inl ⟨_, answer_of_kept hquery hkept files, fun _ => rfl⟩
      | none =>
          have hcount := Corpus.builtCount_build files loader.source asked loader.strict
          change ∀ category, builtCount category (loader.built files asked).log =
            if asked = category ∧ (loader.built files asked).result.isOk then 1 else 0 at hcount
          cases hbuilt : loader.built files asked with
          | mk log result =>
              rw [hbuilt] at hcount
              cases result with
              | error failure =>
                  refine Or.inl ⟨_, answer_of_failed hquery hkept hbuilt, fun category => ?_⟩
                  rw [hcount, if_neg]
                  rintro ⟨-, hok⟩
                  cases hok
              | ok corpus =>
                  refine Or.inr ⟨asked, log, corpus, rfl, hkept, hbuilt,
                    answer_of_built hquery hkept hbuilt, fun category => ?_⟩
                  rw [hcount]
                  simp [Except.isOk, Except.toBool]

end Loader

namespace Session

/-! ## Runs -/

theorem after_append (session : Session) (first second : List Action) :
    session.after (first ++ second) = (session.after first).after second := by
  induction first generalizing session with
  | nil => rfl
  | cons action first ih => exact ih _

theorem run_cons (session : Session) (action : Action) (actions : List Action) :
    session.run (action :: actions) =
      (session.step action).2 :: (session.step action).1.run actions := rfl

theorem run_append (session : Session) (first second : List Action) :
    session.run (first ++ second) =
      session.run first ++ (session.after first).run second := by
  induction first generalizing session with
  | nil => rfl
  | cons action first ih =>
      rw [List.cons_append, run_cons, ih, run_cons, List.cons_append]
      rfl

@[simp] theorem length_run (session : Session) (actions : List Action) :
    (session.run actions).length = actions.length := by
  induction actions generalizing session with
  | nil => rfl
  | cons action actions ih => rw [run_cons, List.length_cons, List.length_cons, ih]

theorem getElem?_run (session : Session) (before : List Action) (action : Action)
    (after : List Action) :
    (session.run (before ++ action :: after))[before.length]? =
      some ((session.after before).step action).2 := by
  rw [run_append, List.getElem?_append_right (length_run session before).le, length_run,
    Nat.sub_self]
  rfl

/-! ## What a step keeps -/

theorem step_query (session : Session) (query : Query) :
    session.step (.query query) =
      ({ session with loader := (session.loader.answer session.files query).1 },
        (session.loader.answer session.files query).2) := rfl

theorem loader_changed (session : Session) (change : Files.Tree × Option Files.Fault) :
    (session.changed change).1.loader = session.loader := by
  obtain ⟨files, fault⟩ := change
  cases fault with
  | none => rfl
  | some fault => rfl

theorem log_changed (session : Session) (change : Files.Tree × Option Files.Fault) :
    (session.changed change).2.log = [] := by
  obtain ⟨files, fault⟩ := change
  cases fault with
  | none => rfl
  | some fault => rfl

/-- A step leaves the loader alone and reports no build, or it is a query that found no corpus,
built one and kept it. -/
theorem step_cases (session : Session) (action : Action) :
    ((session.step action).1.loader = session.loader ∧
      ∀ category, builtCount category (session.step action).2.log = 0) ∨
    ∃ query asked log corpus, action = .query query ∧ query.category? = some asked ∧
      session.loader.kept? asked = none ∧
      session.loader.built session.files asked = ⟨log, .ok corpus⟩ ∧
      (session.step action).1.loader = session.loader.keep corpus asked ∧
      ∀ category, builtCount category (session.step action).2.log =
        if asked = category then 1 else 0 := by
  cases action with
  | query query =>
      rw [step_query]
      rcases Loader.answer_cases session.files session.loader query with
        ⟨reply, hanswer, hcount⟩ | ⟨asked, log, corpus, hquery, hkept, hbuilt, hanswer, hcount⟩
      · rw [hanswer]
        exact Or.inl ⟨rfl, hcount⟩
      · rw [hanswer]
        exact Or.inr ⟨query, asked, log, corpus, rfl, hquery, hkept, hbuilt, rfl, hcount⟩
  | write path content =>
      refine Or.inl ⟨loader_changed session _, fun category => ?_⟩
      rw [step, log_changed, builtCount_nil]
  | makeDirectory path =>
      refine Or.inl ⟨loader_changed session _, fun category => ?_⟩
      rw [step, log_changed, builtCount_nil]
  | delete path =>
      refine Or.inl ⟨loader_changed session _, fun category => ?_⟩
      rw [step, log_changed, builtCount_nil]

theorem kept?_step
    {session : Session} {category : Category} {corpus : Corpus}
    (hkept : session.loader.kept? category = some corpus) (action : Action) :
    (session.step action).1.loader.kept? category = some corpus := by
  rcases step_cases session action with
    ⟨hloader, -⟩ | ⟨query, asked, log, other, -, -, hnone, -, hloader, -⟩
  · rw [hloader, hkept]
  · have hne : category ≠ asked := by
      rintro rfl
      rw [hkept] at hnone
      cases hnone
    rw [hloader, Loader.kept?_keep, if_neg hne, hkept]

theorem source_step (session : Session) (action : Action) :
    (session.step action).1.loader.source = session.loader.source := by
  rcases step_cases session action with ⟨hloader, -⟩ | ⟨_, asked, _, _, -, -, -, -, hloader, -⟩
  · rw [hloader]
  · rw [hloader, Loader.source_keep]

theorem built_step (session : Session) (action : Action) (files : Files.Tree)
    (category : Category) :
    (session.step action).1.loader.built files category = session.loader.built files category := by
  rcases step_cases session action with
    ⟨hloader, -⟩ | ⟨query, asked, log, corpus, -, -, -, -, hloader, -⟩
  · rw [hloader]
  · rw [hloader, Loader.built_keep]

def keptCount (session : Session) (category : Category) : Nat :=
  if (session.loader.kept? category).isSome then 1 else 0

/-- A build is reported exactly when its corpus begins to be kept. -/
theorem keptCount_step (session : Session) (action : Action) (category : Category) :
    (session.step action).1.keptCount category =
      session.keptCount category + builtCount category (session.step action).2.log := by
  unfold keptCount
  rcases step_cases session action with
    ⟨hloader, hcount⟩ | ⟨query, asked, log, corpus, -, -, hnone, -, hloader, hcount⟩
  · rw [hloader, hcount, Nat.add_zero]
  · rw [hloader, hcount, Loader.kept?_keep]
    by_cases hcategory : asked = category
    · subst hcategory
      simp [hnone]
    · simp [hcategory, Ne.symm hcategory]

/-! ## What a run keeps -/

theorem kept?_after
    {session : Session} {category : Category} {corpus : Corpus}
    (hkept : session.loader.kept? category = some corpus) (actions : List Action) :
    (session.after actions).loader.kept? category = some corpus := by
  induction actions generalizing session with
  | nil => exact hkept
  | cons action actions ih => exact ih (kept?_step hkept action)

theorem source_after (session : Session) (actions : List Action) :
    (session.after actions).loader.source = session.loader.source := by
  induction actions generalizing session with
  | nil => rfl
  | cons action actions ih => exact (ih _).trans (source_step session action)

theorem built_after (session : Session) (actions : List Action) (files : Files.Tree)
    (category : Category) :
    (session.after actions).loader.built files category = session.loader.built files category := by
  induction actions generalizing session with
  | nil => rfl
  | cons action actions ih => exact (ih _).trans (built_step session action files category)

theorem keptCount_after (session : Session) (actions : List Action) (category : Category) :
    (session.after actions).keptCount category =
      session.keptCount category +
        builtCount category ((session.run actions).flatMap (·.log)) := by
  induction actions generalizing session with
  | nil => rfl
  | cons action actions ih =>
      rw [run_cons, List.flatMap_cons, builtCount_append, ← Nat.add_assoc, ← keptCount_step, ← ih]
      rfl

/-! ## The first build that succeeds -/

/-- What building the corpus of a category gives after actions. -/
def buildAfter (session : Session) (actions : List Action) (category : Category) :
    Logged Corpus :=
  session.loader.built (session.after actions).files category

/-- Every query on the category among the actions finds a build that fails. -/
def NoneBuilt (session : Session) (actions : List Action) (category : Category) : Prop :=
  ∀ before query after, actions = before ++ .query query :: after →
    query.category? = some category →
      ∃ log failure, session.buildAfter before category = ⟨log, .error failure⟩

theorem noneBuilt_nil (session : Session) (category : Category) :
    session.NoneBuilt [] category := by
  intro before query after hsplit
  simp at hsplit

theorem noneBuilt_concat_iff
    {session : Session} {category : Category} {actions : List Action} {action : Action} :
    session.NoneBuilt (actions ++ [action]) category ↔
      session.NoneBuilt actions category ∧
        ∀ query, action = .query query → query.category? = some category →
          ∃ log failure, session.buildAfter actions category = ⟨log, .error failure⟩ := by
  constructor
  · intro hnone
    constructor
    · rintro before query after rfl
      exact hnone before query (after ++ [action]) (by simp)
    · rintro query rfl
      exact hnone actions query [] rfl
  · rintro ⟨hactions, hlast⟩ before query after hsplit
    rcases List.eq_nil_or_concat after with rfl | ⟨init, last, rfl⟩
    · obtain ⟨rfl, haction⟩ := List.append_inj' hsplit rfl
      exact hlast query (List.singleton_inj.mp haction)
    · rw [List.concat_eq_append, ← List.cons_append, ← List.append_assoc] at hsplit
      obtain ⟨hinit, -⟩ := List.append_inj' hsplit rfl
      exact hactions before query init hinit

/-- Actions that are no queries on the category build no corpus of it. -/
theorem NoneBuilt.append
    {session : Session} {category : Category} {actions others : List Action}
    (hnone : session.NoneBuilt actions category)
    (hothers : ∀ query, .query query ∈ others → query.category? ≠ some category) :
    session.NoneBuilt (actions ++ others) category := by
  induction others using List.reverseRecOn with
  | nil => simpa using hnone
  | append_singleton others action ih =>
      rw [← List.append_assoc, noneBuilt_concat_iff]
      refine ⟨ih fun query hquery => hothers query (List.mem_append_left _ hquery), ?_⟩
      rintro query rfl hcategory
      exact absurd hcategory
        (hothers query (List.mem_append_right _ (List.mem_singleton_self _)))

theorem kept?_after_of_noneBuilt
    {session : Session} {category : Category} {actions : List Action}
    (hkept : session.loader.kept? category = none)
    (hnone : session.NoneBuilt actions category) :
    (session.after actions).loader.kept? category = none := by
  induction actions using List.reverseRecOn with
  | nil => exact hkept
  | append_singleton actions action ih =>
      obtain ⟨hactions, hlast⟩ := noneBuilt_concat_iff.mp hnone
      have hbefore := ih hactions
      rw [after_append]
      change ((session.after actions).step action).1.loader.kept? category = none
      rcases step_cases (session.after actions) action with
        ⟨hloader, -⟩ | ⟨query, asked, log, corpus, rfl, hquery, -, hbuilt, hloader, -⟩
      · rw [hloader, hbefore]
      · have hne : category ≠ asked := by
          rintro rfl
          obtain ⟨other, failure, hfailed⟩ := hlast query rfl hquery
          rw [built_after] at hbuilt
          rw [buildAfter, hbuilt] at hfailed
          cases hfailed
        rw [hloader, Loader.kept?_keep, if_neg hne, hbefore]

theorem step_of_failed
    {session : Session} {query : Query} {category : Category} {log : List LogEntry}
    {failure : Failure} (hquery : query.category? = some category)
    (hkept : session.loader.kept? category = none)
    (hbuilt : session.loader.built session.files category = ⟨log, .error failure⟩) :
    session.step (.query query) = (session, ⟨log, .error failure⟩) := by
  rw [step_query, Loader.answer_of_failed hquery hkept hbuilt]

theorem step_of_built
    {session : Session} {query : Query} {category : Category} {log : List LogEntry}
    {corpus : Corpus} (hquery : query.category? = some category)
    (hkept : session.loader.kept? category = none)
    (hbuilt : session.loader.built session.files category = ⟨log, .ok corpus⟩) :
    session.step (.query query) =
      ({ session with loader := session.loader.keep corpus category },
        ⟨log, query.replyOf session.loader.source corpus⟩) := by
  rw [step_query, Loader.answer_of_built hquery hkept hbuilt]

theorem step_of_kept
    {session : Session} {query : Query} {category : Category} {corpus : Corpus}
    (hquery : query.category? = some category)
    (hkept : session.loader.kept? category = some corpus) :
    session.step (.query query) = (session, ⟨[], query.replyOf session.loader.source corpus⟩) := by
  rw [step_query, Loader.answer_of_kept hquery hkept]
  rfl

/-! ## Getters for one variant -/

theorem replyOf_literal (corpus : Corpus) (id parameters : Value) :
    (Question.literal id parameters).replyOf corpus =
      (Question.sql id Variant.literal.toValue parameters).replyOf corpus := by
  change ((corpus.item id).map (·.value) >>= fun template =>
      Template.literalOf template parameters).map Reply.text =
    (corpus.item id >>= fun c => Template.literalOf c.value parameters).map Reply.text
  cases corpus.item id with
  | ok c => rfl
  | error failure => rfl

theorem replyOf_placeholder (corpus : Corpus) (id parameters : Value) :
    (Question.placeholder id).replyOf corpus =
      (Question.sql id Variant.placeholder.toValue parameters).replyOf corpus := by
  change (((corpus.item id).map (·.value)).map Template.placeholder).map Reply.text =
    (corpus.item id >>= fun c => .ok (Template.placeholder c.value)).map Reply.text
  cases corpus.item id with
  | ok c => rfl
  | error failure => rfl

theorem step_ask_congr {question other : Question}
    (hreply : ∀ corpus, question.replyOf corpus = other.replyOf corpus) (session : Session)
    (category : Category) :
    session.step (.query (.ask category question)) =
      session.step (.query (.ask category other)) := by
  simp only [step_query, Loader.answer, hreply]

theorem step_literal (session : Session) (id parameters : Value) :
    session.step (.query (.literal id parameters)) =
      session.step (.query (.sql .supported id Variant.literal.toValue parameters)) :=
  step_ask_congr (fun corpus => replyOf_literal corpus id parameters) session .supported

theorem step_placeholder (session : Session) (id parameters : Value) :
    session.step (.query (.placeholder id)) =
      session.step (.query (.sql .supported id Variant.placeholder.toValue parameters)) :=
  step_ask_congr (fun corpus => replyOf_placeholder corpus id parameters) session .supported

/-! ## Whole runs -/

def start (files : Files.Tree) (source : Source) (strict : Bool) : Session :=
  ⟨files, .ofSource source strict⟩

section

variable {files : Files.Tree} {source : Source} {strict : Bool} {category : Category}
  {before : List Action} {query : Query} {log : List LogEntry}

theorem kept?_start : (start files source strict).loader.kept? category = none := by
  cases category with
  | supported => rfl
  | unsupported => rfl

theorem source_after_start (actions : List Action) :
    ((start files source strict).after actions).loader.source = source :=
  source_after _ actions

theorem step_start_of_failed
    {failure : Failure} (hquery : query.category? = some category)
    (hnone : (start files source strict).NoneBuilt before category)
    (hfailed : (start files source strict).buildAfter before category = ⟨log, .error failure⟩) :
    ((start files source strict).after before).step (.query query) =
      ((start files source strict).after before, ⟨log, .error failure⟩) := by
  rw [buildAfter, ← built_after _ before] at hfailed
  exact step_of_failed hquery (kept?_after_of_noneBuilt kept?_start hnone) hfailed

theorem noneBuilt_after_failed
    {failure : Failure} (hnone : (start files source strict).NoneBuilt before category)
    (hfailed : (start files source strict).buildAfter before category = ⟨log, .error failure⟩)
    {others : List Action}
    (hothers : ∀ other, .query other ∈ others → other.category? ≠ some category) :
    (start files source strict).NoneBuilt (before ++ .query query :: others) category := by
  rw [List.append_cons]
  apply NoneBuilt.append _ hothers
  rw [noneBuilt_concat_iff]
  exact ⟨hnone, fun _ _ _ => ⟨log, failure, hfailed⟩⟩

theorem step_start_of_built
    {corpus : Corpus} (hquery : query.category? = some category)
    (hnone : (start files source strict).NoneBuilt before category)
    (hbuilt : (start files source strict).buildAfter before category = ⟨log, .ok corpus⟩) :
    ((start files source strict).after before).step (.query query) =
      ({ (start files source strict).after before with
          loader := ((start files source strict).after before).loader.keep corpus category },
        ⟨log, query.replyOf source corpus⟩) := by
  rw [buildAfter, ← built_after _ before] at hbuilt
  rw [step_of_built hquery (kept?_after_of_noneBuilt kept?_start hnone) hbuilt, source_after_start]

theorem kept?_after_built
    {corpus : Corpus} (hquery : query.category? = some category)
    (hnone : (start files source strict).NoneBuilt before category)
    (hbuilt : (start files source strict).buildAfter before category = ⟨log, .ok corpus⟩)
    (between : List Action) :
    ((start files source strict).after (before ++ .query query :: between)).loader.kept? category =
      some corpus := by
  rw [List.append_cons, after_append, after_append]
  apply kept?_after
  change (((start files source strict).after before).step (.query query)).1.loader.kept? category =
    some corpus
  rw [step_start_of_built hquery hnone hbuilt, Loader.kept?_keep, if_pos rfl]

theorem builtCount_run_start (actions : List Action) :
    builtCount category (((start files source strict).run actions).flatMap (·.log)) =
      ((start files source strict).after actions).keptCount category := by
  rw [keptCount_after, keptCount, kept?_start]
  simp

end

/-- A run of a new loader.  As long as no build of a category succeeded, a query on it builds from
the files as they are, and changes nothing if that fails.  The first corpus that is built answers
every later query on the category, with nothing logged.  At most one build of each category is
reported, and queries after the report log nothing.  The getters for one variant are the general
getter with that variant. -/
theorem run_answers_from_first_build (files : Files.Tree) (source : Source) (strict : Bool) :
    (∀ category before query after, query.category? = some category →
      (start files source strict).NoneBuilt before category →
      (∀ log failure,
        (start files source strict).buildAfter before category = ⟨log, .error failure⟩ →
        ((start files source strict).run (before ++ .query query :: after))[before.length]? =
            some ⟨log, .error failure⟩ ∧
          (start files source strict).after (before ++ [.query query]) =
            (start files source strict).after before ∧
          ∀ others, (∀ other, .query other ∈ others → other.category? ≠ some category) →
            (start files source strict).NoneBuilt (before ++ .query query :: others) category) ∧
      (∀ log corpus,
        (start files source strict).buildAfter before category = ⟨log, .ok corpus⟩ →
        ((start files source strict).run (before ++ .query query :: after))[before.length]? =
            some ⟨log, query.replyOf source corpus⟩ ∧
          ∀ between later rest, after = between ++ .query later :: rest →
            later.category? = some category →
            ((start files source strict).run (before ++ .query query :: after))[
                before.length + 1 + between.length]? =
              some ⟨[], later.replyOf source corpus⟩)) ∧
    (∀ category actions,
      builtCount category (((start files source strict).run actions).flatMap (·.log)) ≤ 1) ∧
    (∀ category before query after, query.category? = some category →
      0 < builtCount category (((start files source strict).run before).flatMap (·.log)) →
      ∃ result,
        ((start files source strict).run (before ++ .query query :: after))[before.length]? =
          some ⟨[], result⟩) ∧
    (∀ actions id parameters,
      ((start files source strict).after actions).step (.query (.literal id parameters)) =
          ((start files source strict).after actions).step
            (.query (.sql .supported id Variant.literal.toValue parameters)) ∧
        ((start files source strict).after actions).step (.query (.placeholder id)) =
          ((start files source strict).after actions).step
            (.query (.sql .supported id Variant.placeholder.toValue parameters))) := by
  refine ⟨?_, ?_, ?_, ?_⟩
  · intro category before query after hquery hnone
    constructor
    · intro log failure hfailed
      have hstep := step_start_of_failed hquery hnone hfailed
      refine ⟨?_, ?_, fun others hothers => noneBuilt_after_failed hnone hfailed hothers⟩
      · rw [getElem?_run, hstep]
      · rw [after_append]
        exact congrArg Prod.fst hstep
    · intro log corpus hbuilt
      refine ⟨?_, ?_⟩
      · rw [getElem?_run, step_start_of_built hquery hnone hbuilt]
      · rintro between later rest rfl hlater
        have hlength : before.length + 1 + between.length =
            (before ++ .query query :: between).length := by
          simp
          omega
        rw [hlength, ← List.cons_append, ← List.append_assoc, getElem?_run,
          step_of_kept hlater (kept?_after_built hquery hnone hbuilt between), source_after_start]
  · intro category actions
    rw [builtCount_run_start, keptCount]
    split <;> omega
  · intro category before query after hquery hreported
    rw [builtCount_run_start, keptCount] at hreported
    cases hkept : ((start files source strict).after before).loader.kept? category with
    | none => simp [hkept] at hreported
    | some corpus =>
        exact ⟨query.replyOf source corpus, by
          rw [getElem?_run, step_of_kept hquery hkept, source_after_start]⟩
  · intro actions id parameters
    exact ⟨step_literal _ id parameters, step_placeholder _ id parameters⟩

/-- A document that cannot be read fails the first query.  Once it is deleted the corpus is empty,
and it stays empty when the document is written again. -/
theorem run_answers_from_first_build_of_deleted_document :
    let files : Files.Tree := .directory [("sql", .directory [("a.xml", .file [])])]
    let session := start files (.directory (.ofString "") (.text ".xml")) false
    let replies := session.run
      [.query (.corpus .supported), .delete (.ofString "sql/a.xml"), .query (.corpus .supported),
        .write (.ofString "sql/a.xml") [], .query (.corpus .supported)]
    replies[0]? = some ⟨[], .error (.document .malformed "sql/a.xml")⟩ ∧
      (∃ log, replies[2]? = some ⟨log, .ok (.corpus ⟨"sql", []⟩)⟩) ∧
      replies[4]? = some ⟨[], .ok (.corpus ⟨"sql", []⟩)⟩ := by
  intro files session replies
  have hquery : (Query.corpus .supported).category? = some .supported := rfl
  have hanswers := (run_answers_from_first_build files
    (.directory (.ofString "") (.text ".xml")) false).1 .supported
  have hfailed : session.buildAfter [] .supported =
      ⟨[], .error (.document .malformed "sql/a.xml")⟩ := rfl
  obtain ⟨hfirst, -, hnone⟩ := (hanswers [] (.corpus .supported)
    [.delete (.ofString "sql/a.xml"), .query (.corpus .supported),
      .write (.ofString "sql/a.xml") [], .query (.corpus .supported)] hquery
    (noneBuilt_nil _ _)).1 _ _ hfailed
  have hbuilt : session.buildAfter
      [.query (.corpus .supported), .delete (.ofString "sql/a.xml")] .supported =
      ⟨[⟨.debug, "Built corpus 'sql' from 0 file(s) at .: 0 case(s)"⟩],
        .ok ⟨"sql", []⟩⟩ := rfl
  obtain ⟨hsecond, hlater⟩ := (hanswers
    [.query (.corpus .supported), .delete (.ofString "sql/a.xml")] (.corpus .supported)
    [.write (.ofString "sql/a.xml") [], .query (.corpus .supported)] hquery
    (hnone [.delete (.ofString "sql/a.xml")] (by simp))).2 _ _ hbuilt
  exact ⟨hfirst, ⟨_, hsecond⟩, hlater [.write (.ofString "sql/a.xml") []] _ [] rfl hquery⟩

end Session

end SqlFixtures
