import SqlFixtures.Keyed
import Mathlib.Data.List.Sort
import Mathlib.Data.String.Basic
import Mathlib.Tactic

/-!
# Laws of lists kept by key

Inserting keeps the keys strictly increasing and changes what is found under one key only.  A list
made from pairs therefore holds each key once, with the value that was given for it last, and pairs
with distinct keys are merely brought into order.
-/

namespace SqlFixtures.Keyed

variable {α : Type}

/-- The keys are strictly increasing by code point. -/
def Ordered (pairs : List (String × α)) : Prop := pairs.Pairwise fun a b => a.1 < b.1

/-! ## Inserting one pair -/

theorem mem_of_mem_insert
    {key : String} {value : α} {pairs : List (String × α)} {pair : String × α}
    (hmem : pair ∈ insert key value pairs) : pair = (key, value) ∨ pair ∈ pairs := by
  induction pairs with
  | nil => exact Or.inl (List.mem_singleton.mp hmem)
  | cons head rest ih =>
      obtain ⟨other, a⟩ := head
      rw [insert] at hmem
      split at hmem
      · exact List.mem_cons.mp hmem
      · split at hmem
        · exact (List.mem_cons.mp hmem).imp_right (List.mem_cons_of_mem _)
        · rcases List.mem_cons.mp hmem with rfl | hrest
          · exact Or.inr (List.mem_cons_self ..)
          · exact (ih hrest).imp_right (List.mem_cons_of_mem _)

theorem mem_keys_insert {key other : String} {value : α} {pairs : List (String × α)} :
    other ∈ (insert key value pairs).map (·.1) ↔
      other = key ∨ other ∈ pairs.map (·.1) := by
  induction pairs with
  | nil => simp [insert]
  | cons head rest ih =>
      obtain ⟨first, a⟩ := head
      rw [insert]
      split
      · simp only [List.map_cons, List.mem_cons]
      · split
        next hkey =>
          subst first
          simp only [List.map_cons, List.mem_cons, or_self_left]
        next hkey =>
          simp only [List.map_cons, List.mem_cons] at ih ⊢
          rw [ih]
          exact or_left_comm

theorem ordered_insert
    {pairs : List (String × α)} (hordered : Ordered pairs) (key : String) (value : α) :
    Ordered (insert key value pairs) := by
  induction pairs with
  | nil => exact List.pairwise_singleton _ _
  | cons head rest ih =>
      obtain ⟨other, a⟩ := head
      obtain ⟨hhead, hrest⟩ := List.pairwise_cons.mp hordered
      rw [insert]
      split
      next hlt =>
        apply List.pairwise_cons.mpr
        refine ⟨?_, hordered⟩
        intro pair hpair
        rcases List.mem_cons.mp hpair with rfl | hpair
        · exact hlt
        · exact String.lt_trans hlt (hhead pair hpair)
      next hlt =>
        split
        next hkey =>
          subst other
          exact List.pairwise_cons.mpr ⟨hhead, hrest⟩
        next hkey =>
          apply List.pairwise_cons.mpr
          refine ⟨?_, ih hrest⟩
          intro pair hpair
          have hmem : pair.1 ∈ (insert key value rest).map (·.1) :=
            List.mem_map.mpr ⟨pair, hpair, rfl⟩
          rcases mem_keys_insert.mp hmem with heq | hold
          · rw [heq]
            exact lt_of_le_of_ne (not_lt.mp hlt) (Ne.symm hkey)
          · obtain ⟨earlier, hearlier, heq⟩ := List.mem_map.mp hold
            rw [← heq]
            exact hhead earlier hearlier

theorem lookup_cons_eq (key other : String) (value : α) (pairs : List (String × α)) :
    ((other, value) :: pairs).lookup key =
      if key = other then some value else pairs.lookup key := by
  by_cases heq : key = other
  · rw [if_pos heq, heq, List.lookup_cons_self]
  · rw [if_neg heq, List.lookup_cons, beq_false_of_ne heq]

theorem lookup_eq_some_iff_mem {key : String} {value : α} {pairs : List (String × α)}
    (hnodup : (pairs.map (·.1)).Nodup) : pairs.lookup key = some value ↔ (key, value) ∈ pairs := by
  induction pairs with
  | nil => simp
  | cons head rest ih =>
      obtain ⟨other, a⟩ := head
      rw [List.map_cons, List.nodup_cons] at hnodup
      rw [lookup_cons_eq]
      by_cases hkey : key = other
      · subst other
        have hnew : (key, value) ∉ rest := fun hmem =>
          hnodup.1 (List.mem_map.mpr ⟨_, hmem, rfl⟩)
        rw [if_pos rfl, List.mem_cons, or_iff_left hnew, Option.some.injEq, Prod.mk.injEq]
        exact ⟨fun heq => ⟨rfl, heq.symm⟩, fun heq => heq.2.symm⟩
      · have hhead : (key, value) ≠ (other, a) := fun heq => hkey (Prod.mk.inj heq).1
        rw [if_neg hkey, ih hnodup.2, List.mem_cons, or_iff_right hhead]

theorem lookup_insert (key other : String) (value : α) (pairs : List (String × α)) :
    (insert key value pairs).lookup other =
      if other = key then some value else pairs.lookup other := by
  induction pairs with
  | nil => rw [insert, lookup_cons_eq]
  | cons head rest ih =>
      obtain ⟨first, a⟩ := head
      rw [insert]
      split
      · rw [lookup_cons_eq]
      · split
        next hkey =>
          subst first
          rw [lookup_cons_eq, lookup_cons_eq]
          by_cases heq : other = key
          · rw [if_pos heq, if_pos heq]
          · rw [if_neg heq, if_neg heq, if_neg heq]
        next hkey =>
          rw [lookup_cons_eq, lookup_cons_eq, ih]
          by_cases hfirst : other = first
          · have hother : other ≠ key := fun heq => hkey (heq.symm.trans hfirst)
            rw [if_pos hfirst, if_neg hother, if_pos hfirst]
          · rw [if_neg hfirst, if_neg hfirst]

theorem perm_insert_of_not_mem
    {key : String} {pairs : List (String × α)} (hkey : key ∉ pairs.map (·.1)) (value : α) :
    (insert key value pairs).Perm ((key, value) :: pairs) := by
  induction pairs with
  | nil => exact List.Perm.refl _
  | cons head rest ih =>
      obtain ⟨other, a⟩ := head
      rw [List.map_cons, List.mem_cons, not_or] at hkey
      rw [insert]
      split
      · exact List.Perm.refl _
      · rw [if_neg hkey.1]
        exact ((ih hkey.2).cons _).trans (List.Perm.swap _ _ _)

theorem length_insert_of_mem
    {key : String} {pairs : List (String × α)} (hordered : Ordered pairs)
    (hkey : key ∈ pairs.map (·.1)) (value : α) :
    (insert key value pairs).length = pairs.length := by
  induction pairs with
  | nil => simp at hkey
  | cons head rest ih =>
      obtain ⟨other, a⟩ := head
      obtain ⟨hhead, hrest⟩ := List.pairwise_cons.mp hordered
      rw [insert]
      split
      next hlt =>
        exfalso
        rw [List.map_cons, List.mem_cons] at hkey
        rcases hkey with heq | hmem
        · exact String.ne_of_lt hlt heq
        · obtain ⟨pair, hpair, heq⟩ := List.mem_map.mp hmem
          have hgt : other < key := by
            rw [← heq]
            exact hhead pair hpair
          exact String.lt_asymm hlt hgt
      next hlt =>
        split
        · rfl
        next hne =>
          have hmem : key ∈ rest.map (·.1) := by
            rw [List.map_cons, List.mem_cons] at hkey
            exact hkey.resolve_left hne
          rw [List.length_cons, List.length_cons, ih hrest hmem]

/-! ## Making a list from pairs -/

@[simp] theorem ofList_concat (pairs : List (String × α)) (pair : String × α) :
    ofList (pairs ++ [pair]) = insert pair.1 pair.2 (ofList pairs) := by
  simp [ofList]

theorem ordered_ofList (pairs : List (String × α)) : Ordered (ofList pairs) := by
  induction pairs using List.reverseRecOn with
  | nil => exact List.Pairwise.nil
  | append_singleton pairs pair ih =>
      rw [ofList_concat]
      exact ordered_insert ih pair.1 pair.2

theorem mem_of_mem_ofList
    {pairs : List (String × α)} {pair : String × α} (hmem : pair ∈ ofList pairs) :
    pair ∈ pairs := by
  induction pairs using List.reverseRecOn with
  | nil => exact hmem
  | append_singleton pairs last ih =>
      rw [ofList_concat] at hmem
      rcases mem_of_mem_insert hmem with rfl | hold
      · exact List.mem_append_right _ (List.mem_singleton_self _)
      · exact List.mem_append_left _ (ih hold)

theorem mem_keys_ofList {key : String} {pairs : List (String × α)} :
    key ∈ (ofList pairs).map (·.1) ↔ key ∈ pairs.map (·.1) := by
  induction pairs using List.reverseRecOn with
  | nil => rfl
  | append_singleton pairs pair ih =>
      rw [ofList_concat, mem_keys_insert, ih]
      simp [or_comm]

/-- The value that was given last under a key is kept. -/
theorem lookup_ofList (key : String) (pairs : List (String × α)) :
    (ofList pairs).lookup key = pairs.reverse.lookup key := by
  induction pairs using List.reverseRecOn with
  | nil => rfl
  | append_singleton pairs pair ih =>
      rw [ofList_concat, lookup_insert, ih, List.reverse_append, List.reverse_singleton,
        List.singleton_append, lookup_cons_eq]

theorem length_ofList_concat (pairs : List (String × α)) (pair : String × α) :
    (ofList (pairs ++ [pair])).length =
      (ofList pairs).length + if pair.1 ∈ pairs.map (·.1) then 0 else 1 := by
  rw [ofList_concat]
  by_cases hkey : pair.1 ∈ pairs.map (·.1)
  · rw [if_pos hkey, length_insert_of_mem (ordered_ofList pairs) (mem_keys_ofList.mpr hkey)]
    rfl
  · have hnew : pair.1 ∉ (ofList pairs).map (·.1) := fun hmem => hkey (mem_keys_ofList.mp hmem)
    rw [if_neg hkey, (perm_insert_of_not_mem hnew pair.2).length_eq, List.length_cons]

/-- Pairs with distinct keys are brought into order. -/
theorem perm_ofList
    {pairs : List (String × α)} (hnodup : (pairs.map (·.1)).Nodup) :
    (ofList pairs).Perm pairs := by
  induction pairs using List.reverseRecOn with
  | nil => exact List.Perm.refl _
  | append_singleton pairs pair ih =>
      rw [List.map_append, List.map_singleton, List.nodup_append] at hnodup
      obtain ⟨hpairs, -, hdisjoint⟩ := hnodup
      have hnew : pair.1 ∉ (ofList pairs).map (·.1) := fun hmem =>
        hdisjoint pair.1 (mem_keys_ofList.mp hmem) pair.1 (List.mem_singleton_self _) rfl
      rw [ofList_concat]
      exact ((perm_insert_of_not_mem hnew pair.2).trans ((ih hpairs).cons pair)).trans
        (List.perm_append_singleton pair pairs).symm

theorem eq_of_perm {first second : List (String × α)} (hfirst : Ordered first)
    (hsecond : Ordered second) (hperm : first.Perm second) : first = second :=
  hperm.eq_of_pairwise (fun _ _ _ _ hlt hgt => absurd hgt (String.lt_asymm hlt)) hfirst hsecond

/-- Pairs with distinct keys make the same list in any order. -/
theorem ofList_eq_of_perm {first second : List (String × α)}
    (hnodup : (first.map (·.1)).Nodup) (hperm : first.Perm second) :
    ofList first = ofList second := by
  have hnodupSecond := (hperm.map _).nodup_iff.mp hnodup
  have hsame : (ofList first).Perm (ofList second) :=
    (perm_ofList hnodup).trans (hperm.trans (perm_ofList hnodupSecond).symm)
  exact eq_of_perm (ordered_ofList first) (ordered_ofList second) hsame

theorem lookup_eq_none_iff_not_mem {key : String} {pairs : List (String × α)} :
    pairs.lookup key = none ↔ key ∉ pairs.map (·.1) := by
  simp only [List.lookup_eq_none_iff, List.mem_map, not_exists, not_and, bne_iff_ne, ne_eq,
    eq_comm (a := key)]

theorem nodup_keys_of_ordered {pairs : List (String × α)} (hordered : Ordered pairs) :
    (pairs.map (·.1)).Nodup :=
  (List.pairwise_map.mpr hordered).imp String.ne_of_lt

/-- What is found under the keys determines a list that is kept in order. -/
theorem eq_of_lookup_eq {first second : List (String × α)} (hfirst : Ordered first)
    (hsecond : Ordered second) (hsame : ∀ key, first.lookup key = second.lookup key) :
    first = second := by
  have hkeysFirst := nodup_keys_of_ordered hfirst
  have hkeysSecond := nodup_keys_of_ordered hsecond
  have hperm : first.Perm second := by
    apply (List.perm_ext_iff_of_nodup hkeysFirst.of_map hkeysSecond.of_map).mpr
    rintro ⟨key, value⟩
    rw [← lookup_eq_some_iff_mem hkeysFirst, hsame, lookup_eq_some_iff_mem hkeysSecond]
  exact eq_of_perm hfirst hsecond hperm

/-- Values that are related under each key stand next to each other in lists with the same keys. -/
theorem forall₂_of_lookup {β : Type} {related : α → β → Prop} {first : List (String × α)}
    {second : List (String × β)} (hkeys : first.map (·.1) = second.map (·.1))
    (hnodup : (first.map (·.1)).Nodup)
    (hrelated : ∀ key a b, first.lookup key = some a → second.lookup key = some b → related a b) :
    List.Forall₂ (fun x y => x.1 = y.1 ∧ related x.2 y.2) first second := by
  induction first generalizing second with
  | nil =>
      rw [List.map_nil, eq_comm, List.map_eq_nil_iff] at hkeys
      rw [hkeys]
      exact .nil
  | cons x first ih =>
      obtain ⟨⟨key, b⟩, second, rfl, hkey, hrest⟩ := List.map_eq_cons_iff.mp hkeys.symm
      obtain ⟨other, a⟩ := x
      obtain rfl : key = other := hkey
      obtain ⟨hnew, hnodup⟩ := List.nodup_cons.mp hnodup
      refine .cons ⟨rfl, hrelated key a b List.lookup_cons_self List.lookup_cons_self⟩
        (ih hrest.symm hnodup fun other a' b' ha hb => ?_)
      have hne : other ≠ key := by
        rintro rfl
        rw [lookup_eq_none_iff_not_mem.mpr hnew] at ha
        cases ha
      apply hrelated other a' b'
      · rw [lookup_cons_eq, if_neg hne, ha]
      · rw [lookup_cons_eq, if_neg hne, hb]

/-! ## Texts in order -/

theorem mergeSort_eq_of_perm {first second : List String} (hsame : first.Perm second) :
    first.mergeSort = second.mergeSort := by
  have hperm : first.mergeSort.Perm second.mergeSort :=
    (List.mergeSort_perm first _).trans (hsame.trans (List.mergeSort_perm second _).symm)
  exact hperm.eq_of_pairwise' (List.pairwise_mergeSort' (· ≤ ·) first)
    (List.pairwise_mergeSort' (· ≤ ·) second)

theorem pairwise_lt_mergeSort {texts : List String} (hnodup : texts.Nodup) :
    texts.mergeSort.Pairwise (· < ·) := by
  have hdistinct : texts.mergeSort.Nodup := (List.mergeSort_perm texts _).nodup_iff.mpr hnodup
  exact (List.pairwise_mergeSort' (· ≤ ·) texts).imp₂ (fun _ _ => lt_of_le_of_ne) hdistinct

/-- Strictly increasing lists with the same texts are the same. -/
theorem eq_of_pairwise_lt {first second : List String} (hfirst : first.Pairwise (· < ·))
    (hsecond : second.Pairwise (· < ·)) (hsame : ∀ s, s ∈ first ↔ s ∈ second) :
    first = second := by
  have hperm : first.Perm second :=
    (List.perm_ext_iff_of_nodup (hfirst.imp String.ne_of_lt) (hsecond.imp String.ne_of_lt)).mpr
      hsame
  exact hperm.eq_of_pairwise (fun _ _ _ _ hlt hgt => absurd hgt (String.lt_asymm hlt))
    hfirst hsecond

/-! ## Texts that are kept once -/

theorem mem_sortedDistinct {s : String} {texts : List String} :
    s ∈ sortedDistinct texts ↔ s ∈ texts := by
  rw [sortedDistinct, mem_keys_ofList, List.map_map]
  simp

theorem pairwise_lt_sortedDistinct (texts : List String) :
    (sortedDistinct texts).Pairwise (· < ·) :=
  List.pairwise_map.mpr (ordered_ofList _)

theorem nodup_sortedDistinct (texts : List String) : (sortedDistinct texts).Nodup :=
  (pairwise_lt_sortedDistinct texts).imp String.ne_of_lt

theorem sortedDistinct_eq_nil_iff {texts : List String} :
    sortedDistinct texts = [] ↔ texts = [] := by
  simp only [List.eq_nil_iff_forall_not_mem, mem_sortedDistinct]

end SqlFixtures.Keyed
