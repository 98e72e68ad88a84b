import SqlFixtures.Corpus.Basic
import SqlFixtures.Proofs.Keyed
import Mathlib.Tactic

/-!
# Access to the cases of a corpus

A corpus made from pairs is determined by the case that the pairs give last under each key, and
shows its keys in order.  All ways to reach a case go through the same look into the corpus, some of
them by way of the failure that there is no such case; they succeed together, with data of one case,
or they all tell that it is missing.
-/

namespace SqlFixtures.Corpus

open Record (Case)

/-- Among the pairs, the last one with the key holds the case. -/
def GivenLast (pairs : List (String × Case)) (key : String) (c : Case) : Prop :=
  ∃ before after, pairs = before ++ (key, c) :: after ∧ key ∉ after.map (·.1)

theorem lookup_reverse_eq_some_iff {pairs : List (String × Case)} {key : String} {c : Case} :
    pairs.reverse.lookup key = some c ↔ GivenLast pairs key c := by
  rw [List.lookup_eq_some_iff]
  constructor
  · rintro ⟨later, earlier, hpairs, hlater⟩
    refine ⟨earlier.reverse, later.reverse, ?_, ?_⟩
    · rw [← List.reverse_reverse pairs, hpairs]
      simp
    · rw [List.map_reverse, List.mem_reverse]
      intro hkey
      obtain ⟨pair, hpair, rfl⟩ := List.mem_map.mp hkey
      simpa using hlater pair hpair
  · rintro ⟨before, after, rfl, hafter⟩
    refine ⟨after.reverse, before.reverse, by simp, ?_⟩
    intro pair hpair
    rw [bne_iff_ne]
    rintro rfl
    exact hafter (List.mem_map_of_mem (List.mem_reverse.mp hpair))

section

variable {name : Value} {pairs : List (String × Case)} {key : String}

theorem get?_ofEntries_eq_some_iff (name : Value) {c : Case} :
    (ofEntries name pairs).get? key = some c ↔ GivenLast pairs key c := by
  rw [← lookup_reverse_eq_some_iff, ← Keyed.lookup_ofList]
  rfl

theorem ordered_keys_ofEntries (name : Value) (pairs : List (String × Case)) :
    (ofEntries name pairs).keys.Pairwise (· < ·) :=
  List.pairwise_map.mpr (Keyed.ordered_ofList pairs)

theorem nodup_keys_ofEntries (name : Value) (pairs : List (String × Case)) :
    (ofEntries name pairs).keys.Nodup :=
  Keyed.nodup_keys_of_ordered (Keyed.ordered_ofList pairs)

theorem mem_keys_ofEntries : key ∈ (ofEntries name pairs).keys ↔ key ∈ pairs.map (·.1) :=
  Keyed.mem_keys_ofList

theorem size_ofEntries (name : Value) (pairs : List (String × Case)) :
    (ofEntries name pairs).size = (pairs.map (·.1)).toFinset.card := by
  have hkeys : (ofEntries name pairs).keys.toFinset = (pairs.map (·.1)).toFinset := by
    ext key
    rw [List.mem_toFinset, List.mem_toFinset, mem_keys_ofEntries]
  rw [← hkeys, List.toFinset_card_of_nodup (nodup_keys_ofEntries name pairs), keys,
    List.length_map, size]

theorem ofEntries_eq_iff {others : List (String × Case)} :
    ofEntries name others = ofEntries name pairs ↔
      ∀ key c, GivenLast others key c ↔ GivenLast pairs key c := by
  constructor
  · intro heq key c
    rw [← get?_ofEntries_eq_some_iff name, heq, get?_ofEntries_eq_some_iff]
  · intro hsame
    have hentries : Keyed.ofList others = Keyed.ofList pairs := by
      apply Keyed.eq_of_lookup_eq (Keyed.ordered_ofList _) (Keyed.ordered_ofList _)
      intro key
      rw [Keyed.lookup_ofList, Keyed.lookup_ofList]
      ext c
      rw [lookup_reverse_eq_some_iff, lookup_reverse_eq_some_iff, hsame]
    rw [ofEntries, ofEntries, hentries]

end

/-! ## The ways to reach a case -/

variable {corpus : Corpus} {id : String}

theorem lookup_eq_ok_iff {c : Case} : corpus.lookup id = .ok c ↔ corpus.get? id = some c := by
  rw [lookup]
  cases corpus.get? id with
  | none => simp
  | some found => simp

theorem item_of_get?_eq_some {c : Case} (hget : corpus.get? id = some c) :
    corpus.item id = .ok c := by
  rw [item, find, hget]
  rfl

theorem item_of_get?_eq_none (hget : corpus.get? id = none) :
    corpus.item id = .error (.caseNotFound id) := by
  rw [item, find, hget]
  rfl

/-- Every way to reach the case of an id succeeds, with data of the same case. -/
structure Reaches (corpus : Corpus) (id : String) (c : Case) : Prop where
  contains : corpus.contains id = .ok true
  item? : corpus.item? id = .ok (some c)
  item : corpus.item id = .ok c
  lookup : corpus.lookup id = .ok c
  sql : corpus.sql id = .ok c.value
  databaseTypes : corpus.databaseTypes id = .ok c.databaseTypes

/-- Every way to reach the case of an id tells that there is none. -/
structure Lacks (corpus : Corpus) (id : String) : Prop where
  contains : corpus.contains id = .ok false
  item? : corpus.item? id = .ok none
  item : corpus.item id = .error (.caseNotFound id)
  lookup : corpus.lookup id = .error (.caseNotFound id)
  sql : corpus.sql id = .error (.caseNotFound id)
  databaseTypes : corpus.databaseTypes id = .error (.caseNotFound id)

theorem reaches_of_get?_eq_some {c : Case} (hget : corpus.get? id = some c) :
    corpus.Reaches id c where
  contains := by rw [Corpus.contains, item_of_get?_eq_some hget]
  item? := by rw [Corpus.item?, item_of_get?_eq_some hget]
  item := item_of_get?_eq_some hget
  lookup := lookup_eq_ok_iff.mpr hget
  sql := by rw [Corpus.sql, item_of_get?_eq_some hget, Except.map]
  databaseTypes := by rw [Corpus.databaseTypes, item_of_get?_eq_some hget, Except.map]

theorem lacks_of_get?_eq_none (hget : corpus.get? id = none) : corpus.Lacks id where
  contains := by rw [Corpus.contains, item_of_get?_eq_none hget]; rfl
  item? := by rw [Corpus.item?, item_of_get?_eq_none hget]; rfl
  item := item_of_get?_eq_none hget
  lookup := by rw [Corpus.lookup, hget]
  sql := by rw [Corpus.sql, item_of_get?_eq_none hget, Except.map]
  databaseTypes := by rw [Corpus.databaseTypes, item_of_get?_eq_none hget, Except.map]

theorem get?_eq_none_iff_not_mem_keys : corpus.get? id = none ↔ id ∉ corpus.keys :=
  Keyed.lookup_eq_none_iff_not_mem

/-- A corpus shows the different keys of the pairs that it is made from, in order, and is the same
for all lists of pairs that give the same cases last.  Every id either is a key, and then each way to
reach its case leads to the one that was given last, or it is none, and then each way tells so. -/
theorem corpus_is_canonical_map (name : Value) (pairs : List (String × Case)) :
    (ofEntries name pairs).keys.Pairwise (· < ·) ∧
    (∀ key, key ∈ (ofEntries name pairs).keys ↔ ∃ c, (key, c) ∈ pairs) ∧
    (ofEntries name pairs).size = (pairs.map (·.1)).toFinset.card ∧
    (∀ others, ofEntries name others = ofEntries name pairs ↔
      ∀ key c, GivenLast others key c ↔ GivenLast pairs key c) ∧
    ∀ id : String,
      (id ∈ (ofEntries name pairs).keys ∧
        ∃ c, (∀ d, GivenLast pairs id d ↔ d = c) ∧ (ofEntries name pairs).Reaches id c) ∨
      (id ∉ (ofEntries name pairs).keys ∧ (ofEntries name pairs).Lacks id) := by
  refine ⟨ordered_keys_ofEntries name pairs, ?_, size_ofEntries name pairs,
    fun others => ofEntries_eq_iff, ?_⟩
  · intro key
    rw [mem_keys_ofEntries, List.mem_map]
    simp
  · intro id
    cases hget : (ofEntries name pairs).get? id with
    | none => exact Or.inr ⟨get?_eq_none_iff_not_mem_keys.mp hget, lacks_of_get?_eq_none hget⟩
    | some c =>
        have hkey : id ∈ (ofEntries name pairs).keys := by
          by_contra hnot
          rw [get?_eq_none_iff_not_mem_keys.mpr hnot] at hget
          cases hget
        refine Or.inl ⟨hkey, c, ?_, reaches_of_get?_eq_some hget⟩
        intro d
        rw [← get?_ofEntries_eq_some_iff name, hget, Option.some.injEq, eq_comm]

/-- The keys count, not the ids that the cases have themselves. -/
example :
    let old : Case := ⟨"a", "SELECT 1", none⟩
    let new : Case := ⟨"c", "SELECT 2", none⟩
    let other : Case := ⟨"b", "SELECT 3", none⟩
    (ofEntries "sql" [("b", old), ("a", other), ("b", new)]).entries =
      [("a", other), ("b", new)] := by
  decide

end SqlFixtures.Corpus
