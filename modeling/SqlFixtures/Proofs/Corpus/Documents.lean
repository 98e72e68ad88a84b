import SqlFixtures.Proofs.Corpus.LastDefinition
import SqlFixtures.Proofs.Files.Trees
import Mathlib.Tactic

/-!
# Documents that make up a corpus

When all listed documents can be read, the corpus has the ids that they define, and the case of an
id is the last one in the last document that defines it.  How the documents are called does not
matter, and their order matters for an id only if several of them define it: two orders of the same
documents give different cases only if two documents that define the id stand in different order.
-/

namespace SqlFixtures

open Document (Readable casesIn lastCase?)
open Files (Located)

namespace Definition

theorem ofResource_of_readable {asResource : Located → Resource}
    (hcontent : ∀ f, (asResource f).content = .ok f.2) {f : Located} (hreadable : Readable f.2) :
    ofResource (asResource f) =
      .ok ((casesIn f.2).map fun c => ⟨c, (asResource f).name⟩) := by
  have hcases : History.casesOf (asResource f) = .ok (casesIn f.2) := by
    rw [History.casesOf, hcontent]
    exact hreadable.readCases_eq _
  rw [ofResource, hcases]
  rfl

theorem ofResources_of_readable {asResource : Located → Resource}
    (hcontent : ∀ f, (asResource f).content = .ok f.2) {listed : List Located}
    (hreadable : ∀ f ∈ listed, Readable f.2) :
    ∃ definitions, ofResources (listed.map asResource) = .ok definitions ∧
      definitions.map (·.definedCase) = listed.flatMap fun f => casesIn f.2 := by
  refine ⟨listed.flatMap fun f => (casesIn f.2).map fun c => ⟨c, (asResource f).name⟩, ?_, ?_⟩
  · rw [ofResources_eq_ok_iff, List.flatMap_def]
    refine ⟨_, ?_, rfl⟩
    rw [List.forall₂_map_left_iff, List.forall₂_map_right_iff, List.forall₂_same]
    exact fun f hf => ofResource_of_readable hcontent (hreadable f hf)
  · rw [List.map_flatMap]
    congr 1
    funext f
    rw [List.map_map]
    exact List.map_id _

theorem get?_corpus_eq_findSome? (name : Value) {definitions : List Definition}
    {listed : List Located}
    (hcases : definitions.map (·.definedCase) = listed.flatMap fun f => casesIn f.2)
    (id : String) :
    (corpus name definitions).get? id = listed.reverse.findSome? fun f => lastCase? id f.2 := by
  have hfind : (definitions.reverse.find? fun d => d.id = id).map (·.definedCase) =
      (definitions.map (·.definedCase)).reverse.find? fun c => c.id = id := by
    rw [← List.map_reverse, List.find?_map]
    rfl
  rw [get?_corpus, hfind, hcases, List.reverse_flatMap, List.find?_flatMap]
  rfl

end Definition

/-! ## The last document -/

section

variable {α β : Type} {related other : α → α → Prop} {g : α → Option β} {as bs : List α}

/-- The last element with a value, and where the other ones with a value stand. -/
theorem exists_last_of_findSome? {b : β} (hrelated : as.Pairwise related)
    (hfound : as.reverse.findSome? g = some b) :
    ∃ a ∈ as, g a = some b ∧ ∀ a' ∈ as, (g a').isSome → a' = a ∨ related a' a := by
  obtain ⟨after, a, before, heq, ha, hnone⟩ := List.findSome?_eq_some_iff.mp hfound
  have hsplit : as = before.reverse ++ a :: after.reverse := by
    rw [← List.reverse_reverse as, heq]
    simp
  subst as
  refine ⟨a, by simp, ha, ?_⟩
  intro a' ha' hvalue
  rcases List.mem_append.mp ha' with hbefore | hrest
  · obtain ⟨-, -, hcross⟩ := List.pairwise_append.mp hrelated
    exact Or.inr (hcross a' hbefore a (List.mem_cons_self ..))
  · rcases List.mem_cons.mp hrest with rfl | hafter
    · exact Or.inl rfl
    · rw [hnone a' (List.mem_reverse.mp hafter)] at hvalue
      cases hvalue

theorem findSome?_reverse_eq_none_iff_of_same (hsame : ∀ a, a ∈ as ↔ a ∈ bs) :
    as.reverse.findSome? g = none ↔ bs.reverse.findSome? g = none := by
  simp only [List.findSome?_eq_none_iff, List.mem_reverse, hsame]

/-- Two orders of the same elements have the same last value, or they disagree on the elements that
have the last values. -/
theorem findSome?_eq_or_exists (hrelated : as.Pairwise related) (hother : bs.Pairwise other)
    (hsame : ∀ a, a ∈ as ↔ a ∈ bs) :
    as.reverse.findSome? g = bs.reverse.findSome? g ∨
      ∃ inner ∈ as, ∃ outer ∈ as, related inner outer ∧ other outer inner ∧
        ∃ b c, g outer = some b ∧ g inner = some c ∧
          as.reverse.findSome? g = some b ∧ bs.reverse.findSome? g = some c := by
  have hnone := findSome?_reverse_eq_none_iff_of_same (g := g) hsame
  cases hfirst : as.reverse.findSome? g with
  | none => exact Or.inl (hnone.mp hfirst).symm
  | some b =>
      cases hsecond : bs.reverse.findSome? g with
      | none =>
          rw [hnone.mpr hsecond] at hfirst
          cases hfirst
      | some c =>
          obtain ⟨outer, houter, hb, hlast⟩ := exists_last_of_findSome? hrelated hfirst
          obtain ⟨inner, hinner, hc, hlastOther⟩ := exists_last_of_findSome? hother hsecond
          have hinnerFirst := (hsame inner).mpr hinner
          rcases hlast inner hinnerFirst (hc ▸ rfl) with rfl | horder
          · exact Or.inl (hb.symm.trans hc)
          · rcases hlastOther outer ((hsame outer).mp houter) (hb ▸ rfl) with rfl | hreverse
            · exact Or.inl (hb.symm.trans hc)
            · exact Or.inr ⟨inner, hinnerFirst, outer, houter, horder, hreverse, b, c, hb, hc,
                rfl, rfl⟩

end

namespace Corpus

/-- A build of readable documents succeeds, and the corpus depends on nothing but what they hold
and how they are ordered. -/
theorem exists_build_of_readable {files : Files.Tree} {source : Source} {category : Value}
    {log : List LogEntry} {asResource : Located → Resource} {listed : List Located}
    (hcontent : ∀ f, (asResource f).content = .ok f.2)
    (hlist : source.list files category = ⟨log, .ok (listed.map asResource)⟩)
    (hreadable : ∀ f ∈ listed, Readable f.2) :
    ∃ corpus, (build files source category false).result = .ok corpus ∧
      corpus.keys.Pairwise (· < ·) ∧
      (∀ id, id ∈ corpus.keys ↔ ∃ f ∈ listed, ∃ c ∈ casesIn f.2, c.id = id) ∧
      ∀ id, corpus.get? id = listed.reverse.findSome? fun f => lastCase? id f.2 := by
  obtain ⟨definitions, hdefinitions, hcases⟩ :=
    Definition.ofResources_of_readable hcontent hreadable
  refine ⟨Definition.corpus category definitions, ?_, Definition.ordered_keys_corpus _ _, ?_,
    Definition.get?_corpus_eq_findSome? category hcases⟩
  · rw [build, hlist, Logged.ok_bind, buildFrom_lax hdefinitions]
  · intro id
    have hdefined : (∃ d ∈ definitions, d.definedCase.id = id) ↔
        ∃ c ∈ definitions.map (·.definedCase), c.id = id := by simp
    rw [Definition.mem_keys_corpus]
    change (∃ d ∈ definitions, d.definedCase.id = id) ↔ _
    rw [hdefined, hcases]
    simp only [List.mem_flatMap]
    constructor
    · rintro ⟨c, ⟨f, hf, hc⟩, hid⟩
      exact ⟨f, hf, c, hc, hid⟩
    · rintro ⟨f, hf, c, hc, hid⟩
      exact ⟨c, ⟨f, hf, hc⟩, hid⟩

end Corpus

end SqlFixtures
