import SqlFixtures.Document.Write
import SqlFixtures.Proofs.Files.Changes
import SqlFixtures.Proofs.Loader.Caching
import SqlFixtures.Proofs.Source.Agreement
import Mathlib.Tactic

/-!
# The categories do not interfere

Two runs of a loader that put the same queries on one category, over files that agree outside what
is filed under the other one, get the same replies to them, whatever else is asked and changed in
between.  What a session knows of a category is the corpus that it keeps for it and the files that
the source lists for it; nothing that is done aside touches either.
-/

namespace SqlFixtures

/-! ## Categories -/

namespace Category

def other : Category → Category
  | supported => unsupported
  | unsupported => supported

theorem isName_name (category : Category) : Files.IsName category.name := by
  cases category with
  | supported => decide
  | unsupported => decide

theorem utf8ByteSize_name_le (category : Category) :
    category.name.utf8ByteSize ≤ Files.longestName := by
  cases category with
  | supported => decide
  | unsupported => decide

theorem name_ne_name_other (category : Category) : category.name ≠ category.other.name := by
  cases category with
  | supported => decide
  | unsupported => decide

end Category

/-- The action is a query on the category. -/
def Action.asks (category : Category) : Action → Bool
  | query asked => asked.category? = some category
  | write .. | makeDirectory _ | delete _ => false

namespace Loader

@[simp] theorem strict_keep (loader : Loader) (corpus : Corpus) (category : Category) :
    (loader.keep corpus category).strict = loader.strict := by
  cases category with
  | supported => rfl
  | unsupported => rfl

end Loader

namespace Session

variable {category : Category}

/-! ## Two runs -/

/-- The replies to the queries on a category, in the order of the queries. -/
def repliesOn (category : Category) (session : Session) (actions : List Action) :
    List (Logged Reply) :=
  ((actions.zip (session.run actions)).filter fun step => step.1.asks category).map (·.2)

/-- The action is a query on something else than the category, or changes nothing but what is filed
under the other category. -/
def Aside (category : Category) (session : Session) (action : Action) : Prop :=
  action.asks category = false ∧
    session.loader.source.SameOutside category.other.name session.files
      (session.step action).1.files

/-- Two runs that put the same queries on a category, with actions aside in between.  What is
changed in both runs leaves their files in agreement. -/
inductive Interleaved (category : Category) :
    Session → Session → List Action → List Action → Prop where
  | done {s t} : Interleaved category s t [] []
  | left {s t action first second} (haside : s.Aside category action)
      (hrest : Interleaved category (s.step action).1 t first second) :
      Interleaved category s t (action :: first) second
  | right {s t action first second} (haside : t.Aside category action)
      (hrest : Interleaved category s (t.step action).1 first second) :
      Interleaved category s t first (action :: second)
  | query {s t query first second} (hquery : query.category? = some category)
      (hrest : Interleaved category (s.step (.query query)).1 (t.step (.query query)).1 first
        second) :
      Interleaved category s t (.query query :: first) (.query query :: second)
  | change {s t action first second} (hchange : ∀ query, action ≠ .query query)
      (hsame : s.loader.source.SameOutside category.other.name (s.step action).1.files
        (t.step action).1.files)
      (hrest : Interleaved category (s.step action).1 (t.step action).1 first second) :
      Interleaved category s t (action :: first) (action :: second)

theorem repliesOn_cons_of_asks {action : Action} (hasks : action.asks category)
    (session : Session) (actions : List Action) :
    session.repliesOn category (action :: actions) =
      (session.step action).2 :: (session.step action).1.repliesOn category actions := by
  rw [repliesOn, run_cons, List.zip_cons_cons, List.filter_cons_of_pos (by simpa using hasks),
    List.map_cons]
  rfl

theorem repliesOn_cons_of_not_asks {action : Action} (hasks : action.asks category = false)
    (session : Session) (actions : List Action) :
    session.repliesOn category (action :: actions) =
      (session.step action).1.repliesOn category actions := by
  rw [repliesOn, run_cons, List.zip_cons_cons, List.filter_cons_of_neg (by simpa using hasks)]
  rfl

/-! ## What a session knows of a category -/

theorem strict_step (session : Session) (action : Action) :
    (session.step action).1.loader.strict = session.loader.strict := by
  rcases step_cases session action with ⟨hloader, -⟩ | ⟨_, asked, _, _, -, -, -, -, hloader, -⟩
  · rw [hloader]
  · rw [hloader, Loader.strict_keep]

theorem kept?_step_of_not_asks {session : Session} {action : Action}
    (hasks : action.asks category = false) :
    (session.step action).1.loader.kept? category = session.loader.kept? category := by
  rcases step_cases session action with
    ⟨hloader, -⟩ | ⟨query, asked, _, _, rfl, hquery, -, -, hloader, -⟩
  · rw [hloader]
  · have hne : category ≠ asked := by
      rintro rfl
      simp [Action.asks, hquery] at hasks
    rw [hloader, Loader.kept?_keep, if_neg hne]

/-- The sessions cannot be told apart by queries on the category. -/
structure Alike (category : Category) (s t : Session) : Prop where
  source : s.loader.source = t.loader.source
  strict : s.loader.strict = t.loader.strict
  kept : s.loader.kept? category = t.loader.kept? category
  root : s.loader.source.StaysOff category.other.name
  files : s.loader.source.SameOutside category.other.name s.files t.files

namespace Alike

variable {s t : Session}

theorem symm (halike : Alike category s t) : Alike category t s :=
  ⟨halike.source.symm, halike.strict.symm, halike.kept.symm, halike.source ▸ halike.root,
    halike.source ▸ halike.files.symm⟩

theorem built_eq (halike : Alike category s t) :
    s.loader.built s.files category = t.loader.built t.files category := by
  have hlist : s.loader.source.list s.files (.text category.name) =
      s.loader.source.list t.files (.text category.name) :=
    halike.files.list_eq category.isName_name category.utf8ByteSize_name_le
      category.other.isName_name category.name_ne_name_other halike.root
  rw [Loader.built, Loader.built, ← halike.source, ← halike.strict, Corpus.build, Corpus.build,
    hlist]

/-- What is done aside leaves a session alike. -/
theorem step_aside (halike : Alike category s t) {action : Action}
    (haside : s.Aside category action) : Alike category (s.step action).1 t := by
  obtain ⟨hasks, hfiles⟩ := haside
  constructor
  · rw [source_step, halike.source]
  · rw [strict_step, halike.strict]
  · rw [kept?_step_of_not_asks hasks, halike.kept]
  · rw [source_step]
    exact halike.root
  · rw [source_step]
    exact hfiles.symm.trans halike.files

theorem step_change (halike : Alike category s t) {action : Action}
    (hasks : action.asks category = false)
    (hsame : s.loader.source.SameOutside category.other.name (s.step action).1.files
      (t.step action).1.files) :
    Alike category (s.step action).1 (t.step action).1 := by
  constructor
  · rw [source_step, source_step, halike.source]
  · rw [strict_step, strict_step, halike.strict]
  · rw [kept?_step_of_not_asks hasks, kept?_step_of_not_asks hasks, halike.kept]
  · rw [source_step]
    exact halike.root
  · rw [source_step]
    exact hsame

theorem keep (halike : Alike category s t) (corpus : Corpus) :
    Alike category { s with loader := s.loader.keep corpus category }
      { t with loader := t.loader.keep corpus category } := by
  constructor
  · simp only [Loader.source_keep, halike.source]
  · simp only [Loader.strict_keep, halike.strict]
  · simp only [Loader.kept?_keep, if_pos]
  · simpa only [Loader.source_keep] using halike.root
  · simpa only [Loader.source_keep] using halike.files

/-- A query on the category gets the same reply in sessions that are alike, and leaves them so. -/
theorem step_query (halike : Alike category s t) {query : Query}
    (hquery : query.category? = some category) :
    (s.step (.query query)).2 = (t.step (.query query)).2 ∧
      Alike category (s.step (.query query)).1 (t.step (.query query)).1 := by
  have hkept := halike.kept
  have hbuilt := halike.built_eq
  cases hsKept : s.loader.kept? category with
  | some corpus =>
      rw [step_of_kept hquery hsKept, step_of_kept hquery (hkept ▸ hsKept), halike.source]
      exact ⟨rfl, halike⟩
  | none =>
      cases hsBuilt : s.loader.built s.files category with
      | mk log result =>
          cases result with
          | error failure =>
              rw [step_of_failed hquery hsKept hsBuilt,
                step_of_failed hquery (hkept ▸ hsKept) (hbuilt ▸ hsBuilt)]
              exact ⟨rfl, halike⟩
          | ok corpus =>
              rw [step_of_built hquery hsKept hsBuilt,
                step_of_built hquery (hkept ▸ hsKept) (hbuilt ▸ hsBuilt), halike.source]
              exact ⟨rfl, halike.keep corpus⟩

end Alike

/-! ## Whole runs -/

theorem repliesOn_eq_of_alike {s t : Session} {first second : List Action}
    (halike : Alike category s t) (hruns : Interleaved category s t first second) :
    s.repliesOn category first = t.repliesOn category second := by
  -- One case for each way in which the two runs go on; each leaves the sessions alike.
  induction hruns with
  | done => rfl
  | left haside _ ih =>
      rw [repliesOn_cons_of_not_asks haside.1]
      exact ih (halike.step_aside haside)
  | right haside _ ih =>
      rw [repliesOn_cons_of_not_asks haside.1]
      exact ih (halike.symm.step_aside haside).symm
  | query hquery _ ih =>
      obtain ⟨hreply, hnext⟩ := halike.step_query hquery
      have hasks : Action.asks category (.query _) := decide_eq_true hquery
      rw [repliesOn_cons_of_asks hasks, repliesOn_cons_of_asks hasks, hreply, ih hnext]
  | @change s t action first second hchange hsame _ ih =>
      have hasks : action.asks category = false := by
        cases action with
        | query query => exact absurd rfl (hchange query)
        | write path content => rfl
        | makeDirectory path => rfl
        | delete path => rfl
      rw [repliesOn_cons_of_not_asks hasks, repliesOn_cons_of_not_asks hasks]
      exact ih (halike.step_change hasks hsame)

/-! ## Changes in a directory -/

theorem files_changed (session : Session) (change : Files.Tree × Option Files.Fault) :
    (session.changed change).1.files = change.1 := by
  obtain ⟨files, fault⟩ := change
  cases fault with
  | none => rfl
  | some fault => rfl

theorem aside_of_not_asks {session : Session} {query : Query}
    (hquery : query.category? ≠ some category) : session.Aside category (.query query) :=
  ⟨decide_eq_false hquery, Source.SameOutside.refl _ _ _⟩

section

variable {session : Session} {root : Files.Path} {ending : Value} {way : List String}

theorem straight_extend_name (category : Category) (hroot : root.Straight)
    (hway : ∀ name ∈ way, name ≠ "..") :
    (root.extend (category.name :: way)).Straight := by
  refine ⟨hroot.relative, fun part hpart => ?_⟩
  rcases List.mem_append.mp hpart with hpart | hpart
  · exact hroot.down part hpart
  · rcases List.mem_cons.mp hpart with rfl | hpart
    · exact category.isName_name.2.2.1
    · exact hway part hpart

theorem place_prefix_extend_name (category : Category) (hroot : root.Straight)
    (way : List String) :
    root.place ++ [category.name] <+: (root.extend (category.name :: way)).parts := by
  rw [hroot.place_eq]
  exact ⟨way, List.append_assoc root.parts [category.name] way⟩

/-- A change below the place of the other category is aside, if the root goes straight down. -/
theorem aside_of_below (hsource : session.loader.source = .directory root ending)
    (hroot : root.Straight) (hway : ∀ name ∈ way, name ≠ "..") :
    (∀ content,
      session.Aside category (.write (root.extend (category.other.name :: way)) content)) ∧
    session.Aside category (.makeDirectory (root.extend (category.other.name :: way))) ∧
    session.Aside category (.delete (root.extend (category.other.name :: way))) := by
  have hstraight := straight_extend_name category.other hroot hway
  have hbelow := place_prefix_extend_name category.other hroot way
  simp only [Aside, hsource, step, files_changed, Source.SameOutside]
  exact ⟨fun content => ⟨rfl, Files.Tree.SameOutside.write hstraight hbelow content⟩,
    ⟨rfl, Files.Tree.SameOutside.makeDirectory hstraight (Or.inr hbelow)⟩,
    ⟨rfl, Files.Tree.SameOutside.delete hstraight hbelow⟩⟩

end

/-! ## Separation -/

/-- Two runs of a loader that put the same queries on one category get the same replies and log the
same with them, over files that agree outside the other category, whatever is asked and changed
aside.  For a directory the root must not go into the other category and its names must not be too
long.  If it goes straight down, probing it finds the same source in both trees, and every change
below the other category is aside.  No document is listed under both categories. -/
theorem categories_do_not_interfere {source : Source} {s t : Files.Tree} (strict : Bool)
    {first second : List Action} (hroot : source.StaysOff category.other.name)
    (hsame : source.SameOutside category.other.name s t)
    (hruns : Interleaved category (start s source strict) (start t source strict) first second) :
    (start s source strict).repliesOn category first =
      (start t source strict).repliesOn category second ∧
    (∀ root ending, source = .directory root ending → root.Straight →
      (∀ archiveBase, Source.probe s root archiveBase ending =
        Source.probe t root archiveBase ending) ∧
      ∀ session : Session, session.loader.source = source →
        ∀ way, (∀ name ∈ way, name ≠ "..") →
          (∀ content, session.Aside category
            (.write (root.extend (category.other.name :: way)) content)) ∧
          session.Aside category (.makeDirectory (root.extend (category.other.name :: way))) ∧
          session.Aside category (.delete (root.extend (category.other.name :: way)))) ∧
    ((∀ documents, source ≠ .memory documents) → ∀ files documents others,
      (source.list files (.text category.name)).result = .ok documents →
      (source.list files (.text category.other.name)).result = .ok others →
        ∀ x ∈ documents, ∀ y ∈ others, x.name ≠ y.name) := by
  refine ⟨?_, ?_, ?_⟩
  · have halike : Alike category (start s source strict) (start t source strict) :=
      ⟨rfl, rfl, kept?_start.trans kept?_start.symm, hroot, hsame⟩
    exact repliesOn_eq_of_alike halike hruns
  · rintro root ending rfl hstraight
    exact ⟨fun archiveBase =>
        Source.probe_eq_of_sameOutside hstraight.down hroot.short hsame archiveBase ending,
      fun session hsource way hway => aside_of_below hsource hstraight hway⟩
  · intro hfiled files documents others hdocuments hothers
    exact Source.name_ne_of_mem_list hfiled category.isName_name category.other.isName_name
      category.name_ne_name_other hdocuments hothers

namespace Neighbours

def source : Source := .directory (.ofString "r") (.text ".xml")

def document : List UInt8 := Document.writeCases [⟨"a", "v", none⟩]

def files : Files.Tree :=
  .directory [("r", .directory [("sql", .directory [("a.xml", .file document)])])]

/-- The same files, and a document that cannot be read in the other category. -/
def moreFiles : Files.Tree := (files.write [] (.ofString "r/unsupported_sql/u.xml")).1

theorem sameOutside : source.SameOutside "unsupported_sql" files moreFiles := by
  have hpath : Files.Path.Straight (.ofString "r/unsupported_sql/u.xml") := ⟨rfl, by decide⟩
  exact Files.Tree.SameOutside.write hpath (by decide) []

end Neighbours

/-- A case is asked for over files without the other category, and over files where that category
cannot be built, gets another document and is deleted in between. -/
theorem categories_do_not_interfere_around_failing_build :
    (start Neighbours.files Neighbours.source true).repliesOn .supported
        [.query (.placeholder "a"), .query (.corpus .supported)] =
      (start Neighbours.moreFiles Neighbours.source true).repliesOn .supported
        [.query (.corpus .unsupported),
          .write (.ofString "r/unsupported_sql/a.xml") Neighbours.document,
          .query (.placeholder "a"), .delete (.ofString "r/unsupported_sql"),
          .query (.corpus .supported)] := by
  have hroot : Files.Path.Straight (.ofString "r") := ⟨rfl, by decide⟩
  have hstays : Neighbours.source.StaysOff "unsupported_sql" :=
    Files.Path.staysOff_of_down hroot.down (by decide) _
  have hstart : (start Neighbours.moreFiles Neighbours.source true).loader.source =
      .directory (.ofString "r") (.text ".xml") := rfl
  have hkeep {session : Session} (action : Action)
      (hsource : session.loader.source = .directory (.ofString "r") (.text ".xml")) :
      (session.step action).1.loader.source = .directory (.ofString "r") (.text ".xml") :=
    (source_step session action).trans hsource
  have hinside : ∀ name ∈ ["a.xml"], name ≠ ".." := by decide
  have hitself : ∀ name ∈ ([] : List String), name ≠ ".." := by decide
  have hruns : Interleaved .supported (start Neighbours.files Neighbours.source true)
      (start Neighbours.moreFiles Neighbours.source true)
      [.query (.placeholder "a"), .query (.corpus .supported)]
      [.query (.corpus .unsupported),
        .write (.ofString "r/unsupported_sql/a.xml") Neighbours.document,
        .query (.placeholder "a"), .delete (.ofString "r/unsupported_sql"),
        .query (.corpus .supported)] := by
    apply Interleaved.right (aside_of_not_asks (by decide))
    apply Interleaved.right
    · exact (aside_of_below (hkeep _ hstart) hroot hinside).1 _
    apply Interleaved.query rfl
    apply Interleaved.right
    · exact (aside_of_below (hkeep _ (hkeep _ (hkeep _ hstart))) hroot hitself).2.2
    exact Interleaved.query rfl .done
  exact (categories_do_not_interfere true hstays Neighbours.sameOutside hruns).1

/-- Where a change made in one of two runs is aside, but asking for a corpus after it tells the runs
apart. -/
def Interferes (category : Category) (session : Session) (change : Action) : Prop :=
  Interleaved category session session [change, .query (.corpus category)]
      [.query (.corpus category)] ∧
    session.repliesOn category [change, .query (.corpus category)] ≠
      session.repliesOn category [.query (.corpus category)]

theorem isOk_repliesOn_corpus {session : Session} (hkept : session.loader.kept? category = none) :
    (session.repliesOn category [.query (.corpus category)]).map (·.result.isOk) =
      [(session.loader.built session.files category).result.isOk] := by
  have hquery : (Query.corpus category).category? = some category := rfl
  have hasks : Action.asks category (.query (.corpus category)) := decide_eq_true hquery
  rw [repliesOn_cons_of_asks hasks]
  cases hbuilt : session.loader.built session.files category with
  | mk log result =>
      cases result with
      | error failure =>
          rw [step_of_failed hquery hkept hbuilt]
          rfl
      | ok corpus =>
          rw [step_of_built hquery hkept hbuilt]
          rfl

theorem interferes_of_isOk {session : Session} {change : Action}
    (haside : session.Aside category change) (hkept : session.loader.kept? category = none)
    (hbuilt : (session.loader.built (session.step change).1.files category).result.isOk ≠
      (session.loader.built session.files category).result.isOk) :
    Interferes category session change := by
  refine ⟨.left haside (.query rfl .done), fun hreplies => hbuilt ?_⟩
  rw [repliesOn_cons_of_not_asks haside.1] at hreplies
  have hoks := congrArg (List.map (·.result.isOk)) hreplies
  rw [isOk_repliesOn_corpus hkept,
    isOk_repliesOn_corpus ((kept?_step_of_not_asks haside.1).trans hkept), built_step] at hoks
  exact List.head_eq_of_cons_eq hoks

/-! ## Other roots -/

namespace ThroughOther

/-- The root leads into the category and out again. -/
def source : Source := .directory (.ofString "unsupported_sql/..") (.text ".xml")

def files : Files.Tree := .directory
  [("sql", .directory [("a.xml", .file [])]), ("unsupported_sql", .directory [])]

theorem aside_delete :
    (start files source false).Aside .supported (.delete (.ofString "unsupported_sql")) := by
  have hpath : Files.Path.Straight (.ofString "unsupported_sql") := ⟨rfl, by decide⟩
  have hbelow : ["unsupported_sql"] <+: (Files.Path.ofString "unsupported_sql").parts := by decide
  exact ⟨rfl, Files.Tree.SameOutside.delete hpath hbelow⟩

end ThroughOther

namespace LongRoot

open Files (IsName Path Tree)

/-- No directory can have this name. -/
def name : String := String.ofList (List.replicate 256 'a')

theorem isName_name : IsName name :=
  Files.isName_replicate (by decide) (by decide) (by decide) 255

def root : Path := ⟨.relative, ["x", name]⟩

theorem isName_of_mem_root : ∀ part ∈ root.parts, IsName part :=
  List.forall_mem_cons.mpr ⟨by decide, List.forall_mem_singleton.mpr isName_name⟩

def source : Source := .directory root (.text ".xml")

def change : Action := .write (root.extend ["unsupported_sql", "u.xml"]) []

theorem aside_change : (start .empty source false).Aside .supported change := by
  have hroot : root.Straight := ⟨rfl, fun part hpart => (isName_of_mem_root part hpart).2.2.1⟩
  have hway : ∀ name ∈ ["u.xml"], name ≠ ".." := by decide
  exact (aside_of_below rfl hroot hway).1 []

theorem find_extend (tree : Tree) {names : List String} (hnames : ∀ name ∈ names, IsName name)
    (hlength : (root.extend names).text.utf8ByteSize ≤ Files.longestPath) :
    tree.find (root.extend names) = Tree.follow [] tree (root.parts ++ names) := by
  have hzero : '\x00' ∉ (root.extend names).text.toList :=
    Path.zero_not_mem_text (List.forall_mem_append.mpr ⟨isName_of_mem_root, hnames⟩)
  rw [Tree.find, List.contains_eq_mem, if_neg (by simpa using hzero), if_neg hlength.not_gt]
  rfl

theorem find_missing {names : List String} (hnames : ∀ name ∈ names, IsName name)
    (hlength : (root.extend names).text.utf8ByteSize ≤ Files.longestPath) :
    Tree.empty.find (root.extend names) = .error .missing := by
  rw [find_extend .empty hnames hlength]
  rfl

/-- Inside the first directory of the root, the next name of it is noticed. -/
theorem find_tooLong {names : List String} (hnames : ∀ name ∈ names, IsName name)
    (hlength : (root.extend names).text.utf8ByteSize ≤ Files.longestPath) :
    Tree.find (.directory [("x", .empty)]) (root.extend names) = .error .tooLong := by
  have hlong : Files.longestName < name.utf8ByteSize := by decide +kernel
  rw [find_extend _ hnames hlength, root, List.cons_append, List.singleton_append,
    Tree.follow_name (by decide), if_neg (by decide)]
  change Tree.follow _ .empty (name :: names) = _
  rw [Tree.empty, Tree.follow_name isName_name.2.2.1, if_pos hlong]

theorem makeDirectory_parent : Tree.empty.makeDirectory (root.extend ["unsupported_sql"]) =
    (.directory [("x", .empty)], some (.nameTooLong root.text)) := by
  have hparent : Tree.empty.find (root.extend ["unsupported_sql"]) = .error .missing :=
    find_missing (by decide) (by decide +kernel)
  have hdescent : (root.extend ["unsupported_sql"]).descent =
      [⟨.relative, ["x"]⟩, root, root.extend ["unsupported_sql"]] := rfl
  have hfirst : Tree.empty.find ⟨.relative, ["x"]⟩ = .error .missing := rfl
  have hput : Tree.empty.put (Path.place ⟨.relative, ["x"]⟩) .empty =
      .directory [("x", .empty)] := rfl
  have hroot : Tree.find (.directory [("x", .empty)]) root = .error .tooLong :=
    Path.extend_nil root ▸ find_tooLong (by decide) (by decide +kernel)
  rw [Tree.makeDirectory, hparent]
  change Tree.makeEach .empty _ = _
  rw [hdescent, Tree.makeEach, hfirst]
  change Tree.makeEach (Tree.empty.put _ .empty) _ = _
  rw [hput, Tree.makeEach, hroot]
  rfl

theorem files_change :
    ((start .empty source false).step change).1.files = .directory [("x", .empty)] := by
  have hstart : (start .empty source false).files = .empty := rfl
  have hparent : (root.extend ["unsupported_sql", "u.xml"]).parent =
      root.extend ["unsupported_sql"] := rfl
  rw [change, step, files_changed, hstart, Tree.write, hparent, makeDirectory_parent]

theorem isOk_built : ((start .empty source false).loader.built .empty .supported).result.isOk := by
  have hlook : Tree.empty.look (root.extend ["sql"]) = .ok none := by
    rw [Tree.look, find_missing (by decide) (by decide +kernel)]
  have hnothing : Tree.empty.directoryAt (root.extend ["sql"]) = .ok none :=
    Source.directoryAt_of_no_directory hlook (by simp)
  have hplace : root.join (.ofString "sql") = root.extend ["sql"] := rfl
  change (source.list .empty (.text "sql") >>= Corpus.buildFrom _ _ _).result.isOk
  rw [source, Source.list, Source.listDirectory, hplace, hnothing]
  rfl

theorem not_isOk_built :
    ¬ ((start .empty source false).loader.built (.directory [("x", .empty)])
      .supported).result.isOk := by
  have hnames : ∀ name ∈ ["sql"], IsName name := by decide
  have hlook : Tree.look (.directory [("x", .empty)]) (root.extend ["sql"]) =
      .error (.nameTooLong (root.extend ["sql"]).text) := by
    rw [Tree.look, find_tooLong hnames (by decide +kernel)]
  have hlist := Source.list_directory_of_look_error hnames hlook (.text ".xml")
  rw [Files.slashed_singleton] at hlist
  change ¬ (source.list _ (.text "sql") >>= Corpus.buildFrom _ _ _).result.isOk
  rw [source, hlist]
  exact Bool.false_ne_true

end LongRoot

/-- If the root leads through the other category, deleting that category takes the cases with it.
If a name of the root is too long, writing into the other category fails but makes the directory in
front of that name, where the name is then noticed. -/
theorem categories_interfere_at_other_roots :
    Interferes .supported (start ThroughOther.files ThroughOther.source false)
        (.delete (.ofString "unsupported_sql")) ∧
      Interferes .supported (start .empty LongRoot.source false) LongRoot.change := by
  constructor
  · exact interferes_of_isOk ThroughOther.aside_delete rfl (by decide +kernel)
  · refine interferes_of_isOk LongRoot.aside_change rfl fun heq => LongRoot.not_isOk_built ?_
    rw [LongRoot.files_change] at heq
    exact heq.trans LongRoot.isOk_built

end Session

end SqlFixtures
