import SqlFixtures.Loader.Basic
import SqlFixtures.Proofs.Logging.Logged
import Mathlib.Tactic

/-!
# What building a corpus logs

Listing documents and defining their cases is logged in other words than a finished build.  A build
therefore reports exactly once that a corpus was built if it succeeds, for the category it was asked
for, and never if it fails.
-/

namespace SqlFixtures

/-- The entry that ends the log of a build. -/
def Corpus.builtNotice
    (category : Value) (documents : Nat) (location : String) (size : Nat) : LogEntry :=
  ⟨.debug, s!"Built corpus '{category.toText}' from {documents} file(s) at {location}: " ++
    s!"{size} case(s)"⟩

def LogEntry.reportsBuilt (category : Category) (entry : LogEntry) : Bool :=
  Text.beginsWith s!"Built corpus '{category.name}' from " entry.message

def builtCount (category : Category) (log : List LogEntry) : Nat :=
  log.countP (·.reportsBuilt category)

@[simp] theorem builtCount_nil (category : Category) : builtCount category [] = 0 := rfl

@[simp] theorem builtCount_append (category : Category) (first second : List LogEntry) :
    builtCount category (first ++ second) =
      builtCount category first + builtCount category second :=
  List.countP_append

/-! ## Wordings -/

theorem reportsBuilt_eq_false_of_head
    {entry : LogEntry} (hhead : entry.message.toList.head? ≠ some 'B') (category : Category) :
    entry.reportsBuilt category = false := by
  rw [LogEntry.reportsBuilt, Text.beginsWith, Bool.eq_false_iff]
  intro hprefix
  obtain ⟨rest, hmessage⟩ := List.isPrefixOf_iff_prefix.mp hprefix
  apply hhead
  rw [← hmessage]
  cases category with
  | supported => rfl
  | unsupported => rfl

theorem reportsBuilt_builtNotice
    (asked category : Category) (documents : Nat) (location : String) (size : Nat) :
    (Corpus.builtNotice (.text asked.name) documents location size).reportsBuilt category =
      decide (asked = category) := by
  simp only [LogEntry.reportsBuilt, Text.beginsWith, Corpus.builtNotice, String.toList_append]
  cases asked with
  | supported =>
      cases category with
      | supported => simp [Category.name, Value.toText]
      | unsupported => rfl
  | unsupported =>
      cases category with
      | supported => rfl
      | unsupported => simp [Category.name, Value.toText]

namespace Logged

variable {α β : Type} {category : Category}

/-- Nothing that is logged says that the corpus of the category was built. -/
def SilentAbout (category : Category) (logged : Logged α) : Prop :=
  builtCount category logged.log = 0

theorem silentAbout_ofExcept (result : Except Failure α) :
    SilentAbout category (ofExcept result) := rfl

theorem silentAbout_note {level : Level} {message : String}
    (hhead : message.toList.head? ≠ some 'B') : SilentAbout category (note level message) := by
  have hreport : LogEntry.reportsBuilt category ⟨level, message⟩ = false :=
    reportsBuilt_eq_false_of_head hhead category
  simp [SilentAbout, builtCount, note, hreport]

theorem SilentAbout.bind {first : Logged α} {next : α → Logged β}
    (hfirst : SilentAbout category first) (hnext : ∀ a, SilentAbout category (next a)) :
    SilentAbout category (first >>= next) := by
  obtain ⟨log, result⟩ := first
  cases result with
  | ok a =>
      have hsum := builtCount_append category log (next a).log
      rw [show builtCount category log = 0 from hfirst, hnext a] at hsum
      exact hsum
  | error failure => exact hfirst

end Logged

/-! ## Listing and defining -/

open Logged

variable {category : Category}

/-- Listing a category logs nothing but that the category is not there. -/
theorem log_list (files : Files.Tree) (source : Source) (asked : Value) :
    (source.list files asked).log = [] ∨
      ∃ message, (source.list files asked).log = [⟨.debug, message⟩] ∧
        message.toList.head? = some 'N' := by
  cases source with
  | directory root ending =>
      rw [Source.list, Source.listDirectory.eq_def]
      split
      next name =>
        dsimp only
        cases (files.directoryAt (root.join (.ofString name))).mapError Failure.file with
        | error failure => exact Or.inl rfl
        | ok found =>
            cases found with
            | none => exact Or.inr ⟨_, rfl, by simp [toString]⟩
            | some entries => exact Or.inl rfl
      next => exact Or.inl rfl
  | archive path base ending =>
      rw [Source.list, Source.listArchive]
      cases Source.openArchive files path with
      | error failure => exact Or.inl rfl
      | ok entries =>
          rw [ofExcept_ok_bind]
          cases Source.archiveDocuments path (Source.entryBeginning base asked.toText) ending
            entries with
          | error failure => exact Or.inl rfl
          | ok documents =>
              rw [ofExcept_ok_bind]
              split
              · exact Or.inr ⟨_, rfl, by simp [toString]⟩
              · exact Or.inl rfl
  | memory documents => exact Or.inl rfl

theorem level_of_mem_log_list {files : Files.Tree} {source : Source} {asked : Value}
    {entry : LogEntry} (hentry : entry ∈ (source.list files asked).log) :
    entry.level = .debug := by
  rcases log_list files source asked with hlog | ⟨message, hlog, -⟩
  · simp [hlog] at hentry
  · rw [hlog, List.mem_singleton] at hentry
    rw [hentry]

theorem silentAbout_list (files : Files.Tree) (source : Source) (asked : Value) :
    SilentAbout category (source.list files asked) := by
  unfold SilentAbout
  rcases log_list files source asked with hlog | ⟨message, hlog, hhead⟩
  · rw [hlog, builtCount_nil]
  · rw [hlog]
    exact silentAbout_note (by simp [hhead])

namespace History

theorem silentAbout_replace (strict : Bool) (resource : String) (c : Record.Case)
    (earlier : Option Definition) :
    SilentAbout category (replace strict resource c earlier) := by
  cases earlier with
  | none => exact silentAbout_ofExcept _
  | some e =>
      rw [replace]
      split
      · exact silentAbout_ofExcept _
      · exact silentAbout_note (by simp [toString])

theorem silentAbout_define (strict : Bool) (resource : String) (history : History)
    (cases : List Record.Case) :
    SilentAbout category (define strict resource history cases) := by
  induction cases generalizing history with
  | nil => exact silentAbout_ofExcept _
  | cons c cases ih =>
      apply SilentAbout.bind (silentAbout_replace strict resource c _)
      exact fun _ => ih _

theorem silentAbout_defineAll (strict : Bool) (history : History) (resources : List Resource) :
    SilentAbout category (defineAll strict history resources) := by
  induction resources generalizing history with
  | nil => exact silentAbout_ofExcept _
  | cons resource resources ih =>
      apply SilentAbout.bind (silentAbout_ofExcept _)
      intro cases
      exact SilentAbout.bind (silentAbout_define strict resource.name history cases) ih

end History

/-! ## The whole build -/

namespace Corpus

/-- A build that comes to its end reports so, and does nothing else of the kind. -/
theorem build_cases (files : Files.Tree) (source : Source) (asked : Category) (strict : Bool) :
    (∃ log failure, build files source (.text asked.name) strict = ⟨log, .error failure⟩ ∧
      ∀ category, builtCount category log = 0) ∨
    ∃ log corpus documents location size,
      build files source (.text asked.name) strict =
        ⟨log ++ [builtNotice (.text asked.name) documents location size], .ok corpus⟩ ∧
      ∀ category, builtCount category log = 0 := by
  have hlist : ∀ category, SilentAbout category (source.list files (.text asked.name)) :=
    fun category => silentAbout_list files source _
  rw [build]
  generalize source.list files (.text asked.name) = listed at hlist ⊢
  obtain ⟨listing, result⟩ := listed
  cases result with
  | error failure => exact Or.inl ⟨listing, failure, rfl, hlist⟩
  | ok resources =>
      have hdefine : ∀ category, SilentAbout category (History.defineAll strict [] resources) :=
        fun category => History.silentAbout_defineAll strict [] resources
      rw [ok_bind, buildFrom]
      generalize History.defineAll strict [] resources = defined at hdefine ⊢
      obtain ⟨notices, result⟩ := defined
      have hlog : ∀ category, builtCount category (listing ++ notices) = 0 := by
        intro category
        rw [builtCount_append, show builtCount category listing = 0 from hlist category,
          show builtCount category notices = 0 from hdefine category]
      cases result with
      | error failure => exact Or.inl ⟨listing ++ notices, failure, rfl, hlog⟩
      | ok history =>
          refine Or.inr ⟨listing ++ notices, history.corpus (.text asked.name), resources.length,
            source.location, (history.corpus (.text asked.name)).size, ?_, hlog⟩
          rw [ok_bind, List.append_assoc]
          rfl

theorem builtCount_build (files : Files.Tree) (source : Source) (asked : Category)
    (strict : Bool) (category : Category) :
    builtCount category (build files source (.text asked.name) strict).log =
      if asked = category ∧ (build files source (.text asked.name) strict).result.isOk then 1
      else 0 := by
  rcases build_cases files source asked strict with
    ⟨log, failure, hbuild, hlog⟩ | ⟨log, corpus, documents, location, size, hbuild, hlog⟩
  · rw [hbuild, hlog, if_neg]
    rintro ⟨-, hok⟩
    cases hok
  · have hnotice : builtCount category [builtNotice (.text asked.name) documents location size] =
        if asked = category then 1 else 0 := by
      simp [builtCount, List.countP_singleton, reportsBuilt_builtNotice]
    rw [hbuild, builtCount_append, hlog, hnotice, Nat.zero_add]
    simp [Except.isOk, Except.toBool]

end Corpus

end SqlFixtures
