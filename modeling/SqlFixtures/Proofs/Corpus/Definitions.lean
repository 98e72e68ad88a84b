import SqlFixtures.Corpus.Build
import SqlFixtures.Proofs.Document.Cases
import SqlFixtures.Proofs.Keyed
import SqlFixtures.Proofs.Logging.Logged
import Mathlib.Tactic

/-!
# The definitions of a category

All documents of a category together are one list of definitions, in the order of the documents and
then in document order.  Without strict mode, defining the documents one after the other goes
through this list and nothing else: the history is the list read backwards, and each definition of
an id that was defined before is logged with the latest definition before it.
-/

namespace SqlFixtures

open Record (Case)

namespace Definition

def id (d : Definition) : String := d.definedCase.id

def entry (d : Definition) : String × Case := (d.id, d.definedCase)

def ofResource (resource : Resource) : Except Failure (List Definition) := do
  let cases ← History.casesOf resource
  pure (cases.map fun c => ⟨c, resource.name⟩)

/-- The definitions of all documents, if each of them can be read. -/
def ofResources (resources : List Resource) : Except Failure (List Definition) := do
  let blocks ← resources.mapM ofResource
  pure blocks.flatten

def notice (earlier d : Definition) : LogEntry :=
  ⟨.warning, s!"SQL case '{d.id}' in {d.resource} replaces the one in {earlier.resource}"⟩

/-- The latest of the definitions before `d` that `d` takes the place of, with `d`. -/
def replaced? (before : List Definition) (d : Definition) : Option (Definition × Definition) :=
  (before.reverse.find? fun earlier => earlier.id = d.id).map fun earlier => (earlier, d)

/-- Every definition of an id that was defined before, in order, after the latest definition of
that id before it. -/
def replacements (definitions : List Definition) : List (Definition × Definition) :=
  (definitions.inits.zip definitions).filterMap fun place => replaced? place.1 place.2

@[simp] theorem entry_fst (d : Definition) : d.entry.1 = d.id := rfl

theorem ofResources_eq_ok_iff {resources : List Resource} {definitions : List Definition} :
    ofResources resources = .ok definitions ↔
      ∃ blocks, List.Forall₂ (fun r block => ofResource r = .ok block) resources blocks ∧
        blocks.flatten = definitions := by
  simp only [ofResources, Results.bind_eq_ok_iff, Results.mapM_eq_ok_iff]
  constructor
  · rintro ⟨blocks, hblocks, hflatten⟩
    exact ⟨blocks, hblocks, Except.ok.inj hflatten⟩
  · rintro ⟨blocks, hblocks, rfl⟩
    exact ⟨blocks, hblocks, rfl⟩

theorem ofResource_eq_ok_iff {resource : Resource} {block : List Definition} :
    ofResource resource = .ok block ↔
      ∃ cases, History.casesOf resource = .ok cases ∧
        (cases.map fun c => (⟨c, resource.name⟩ : Definition)) = block := by
  simp only [ofResource, Results.bind_eq_ok_iff]
  constructor
  · rintro ⟨cases, hcases, hblock⟩
    exact ⟨cases, hcases, Except.ok.inj hblock⟩
  · rintro ⟨cases, hcases, rfl⟩
    exact ⟨cases, hcases, rfl⟩

theorem id_ne_empty_of_ofResources
    {resources : List Resource} {definitions : List Definition}
    (hread : ofResources resources = .ok definitions) {d : Definition}
    (hmem : d ∈ definitions) : d.id ≠ "" := by
  obtain ⟨blocks, hblocks, rfl⟩ := ofResources_eq_ok_iff.mp hread
  obtain ⟨block, hblock, hd⟩ := List.mem_flatten.mp hmem
  obtain ⟨resource, -, hresource⟩ := Results.exists_left_of_mem hblocks hblock
  obtain ⟨cases, hcases, rfl⟩ := ofResource_eq_ok_iff.mp hresource
  obtain ⟨c, hc, rfl⟩ := List.mem_map.mp hd
  obtain ⟨bytes, -, hbytes⟩ := Results.bind_eq_ok_iff.mp hcases
  exact Document.id_ne_empty_of_readCases hbytes hc

end Definition

namespace History

/-- The replacements that are made when definitions follow on a history. -/
def replacementsAfter : History → List Definition → List (Definition × Definition)
  | _, [] => []
  | history, d :: definitions =>
    ((history.latest? d.id).map fun earlier => (earlier, d)).toList ++
      replacementsAfter (d :: history) definitions

def notices (replacements : List (Definition × Definition)) : List LogEntry :=
  replacements.map fun r => r.1.notice r.2

theorem notices_append (first second : List (Definition × Definition)) :
    notices (first ++ second) = notices first ++ notices second :=
  List.map_append

theorem replacementsAfter_append (history : History) (first second : List Definition) :
    replacementsAfter history (first ++ second) =
      replacementsAfter history first ++ replacementsAfter (first.reverse ++ history) second := by
  induction first generalizing history with
  | nil => rfl
  | cons d first ih =>
      rw [List.cons_append, replacementsAfter, ih, replacementsAfter, List.reverse_cons,
        List.append_assoc, List.append_assoc]
      rfl

theorem replacementsAfter_reverse (before definitions : List Definition) :
    replacementsAfter before.reverse definitions =
      ((definitions.inits.map (before ++ ·)).zip definitions).filterMap fun place =>
        Definition.replaced? place.1 place.2 := by
  induction definitions generalizing before with
  | nil => rfl
  | cons d definitions ih =>
      have hreverse : d :: before.reverse = (before ++ [d]).reverse := by simp
      have hprefix : (before ++ ·) ∘ (d :: ·) = ((before ++ [d]) ++ ·) := by
        funext rest
        simp
      have hhead : ((latest? before.reverse d.id).map fun earlier => (earlier, d)) =
          Definition.replaced? before d := rfl
      rw [replacementsAfter, hreverse, ih, hhead, List.inits_cons, List.map_cons,
        List.zip_cons_cons, List.append_nil, List.map_map, hprefix, List.filterMap_cons]
      cases Definition.replaced? before d with
      | none => rfl
      | some replacement => rfl

theorem replacementsAfter_nil (definitions : List Definition) :
    replacementsAfter [] definitions = Definition.replacements definitions := by
  have hafter := replacementsAfter_reverse [] definitions
  simpa [Definition.replacements] using hafter

/-! ## Documents one after the other -/

theorem replace_lax (resource : String) (c : Case) (history : History) :
    replace false resource c (history.latest? c.id) =
      ⟨notices ((history.latest? c.id).map fun earlier =>
        (earlier, (⟨c, resource⟩ : Definition))).toList, .ok ()⟩ := by
  cases history.latest? c.id with
  | none => rfl
  | some earlier => rfl

theorem define_lax (resource : String) (history : History) (cases : List Case) :
    define false resource history cases =
      ⟨notices (replacementsAfter history (cases.map fun c => ⟨c, resource⟩)),
        .ok ((cases.map fun c => (⟨c, resource⟩ : Definition)).reverse ++ history)⟩ := by
  induction cases generalizing history with
  | nil => rfl
  | cons c cases ih =>
      rw [define, replace_lax, Logged.ok_bind, ih, List.map_cons, replacementsAfter,
        List.reverse_cons, List.append_assoc, notices_append]
      rfl

theorem defineAll_lax
    {resources : List Resource} {definitions : List Definition}
    (hread : Definition.ofResources resources = .ok definitions) (history : History) :
    defineAll false history resources =
      ⟨notices (replacementsAfter history definitions), .ok (definitions.reverse ++ history)⟩ := by
  obtain ⟨blocks, hblocks, rfl⟩ := Definition.ofResources_eq_ok_iff.mp hread
  clear hread
  induction hblocks generalizing history with
  | nil => rfl
  | @cons resource block resources blocks hhead _ ih =>
      obtain ⟨cases, hcases, rfl⟩ := Definition.ofResource_eq_ok_iff.mp hhead
      rw [defineAll, hcases, Logged.ofExcept_ok_bind, define_lax, Logged.ok_bind, ih,
        List.flatten_cons, replacementsAfter_append, List.reverse_append, List.append_assoc,
        notices_append]

end History

end SqlFixtures
