import SqlFixtures.Corpus.Build
import SqlFixtures.Record.Config
import SqlFixtures.Source.Probe

/-!
# Loaders

A loader answers for the two corpora of one source: cases that are supported, and cases that must be
refused.  A corpus is built when it is first asked for and kept from then on; a build that fails
leaves nothing behind.
-/

namespace SqlFixtures

inductive Category where
  | supported
  | unsupported
  deriving Repr, DecidableEq

def Category.name : Category → String
  | supported => "sql"
  | unsupported => "unsupported_sql"

structure Loader where
  source : Source
  strict : Bool
  supported : Option Corpus
  unsupported : Option Corpus

namespace Loader

def ofSource (source : Source) (strict : Bool) : Loader := ⟨source, strict, none, none⟩

/-- A loader for settings.  Without a source of its own it probes the root, for which `bundled`
stands in. -/
def ofConfig (files : Files.Tree) (bundled : Files.Path) (config : Record.Config) :
    Option Source → Logged Loader
  | some source => pure (ofSource source config.strictDuplicates)
  | none => do
    let root := config.root.getD bundled
    let source ← Source.probe files root (.ofOption config.archiveBase) config.ending
    pure (ofSource source config.strictDuplicates)

def kept? (loader : Loader) : Category → Option Corpus
  | .supported => loader.supported
  | .unsupported => loader.unsupported

def keep (loader : Loader) (corpus : Corpus) : Category → Loader
  | .supported => { loader with supported := some corpus }
  | .unsupported => { loader with unsupported := some corpus }

/-- The corpus of a category, built from the files as they are if it was not built before. -/
def corpus (files : Files.Tree) (loader : Loader) (category : Category) :
    Loader × Logged Corpus :=
  match loader.kept? category with
  | some corpus => (loader, pure corpus)
  | none =>
    let built := Corpus.build files loader.source (.text category.name) loader.strict
    match built.result with
    | .ok corpus => (loader.keep corpus category, built)
    | .error _ => (loader, built)

end Loader

end SqlFixtures
