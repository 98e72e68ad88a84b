import SqlFixtures.Proofs.Files.Agreement
import Mathlib.Tactic

/-!
# Changes below a place

Writing a file below a place, making a directory there or deleting something there changes nothing
outside the place, if the path goes straight down.  What may be made on the way are directories that
the place lies in.  A path with an anchor finds the same in every tree and changes none.
-/

namespace SqlFixtures.Files

namespace Tree

variable {tree sub : Tree} {place way : List String}

/-! ## Putting and removing -/

theorem lookup_setEntry (name other : String) (next : Tree) (entries : List (String × Tree)) :
    (setEntry name next entries).lookup other =
      if other = name then some next else entries.lookup other := by
  induction entries with
  | nil => rw [setEntry, Keyed.lookup_cons_eq]
  | cons entry rest ih =>
      obtain ⟨first, t⟩ := entry
      rw [setEntry]
      split
      next hfirst =>
        subst first
        rw [Keyed.lookup_cons_eq, Keyed.lookup_cons_eq]
        split
        · rfl
        · rfl
      next hfirst =>
        rw [Keyed.lookup_cons_eq, Keyed.lookup_cons_eq, ih]
        split
        next hother => rw [if_neg (hother ▸ hfirst)]
        next => rfl

theorem lookup_filter_ne {name other : String} (hne : other ≠ name)
    (entries : List (String × Tree)) :
    (entries.filter fun entry => entry.1 ≠ name).lookup other = entries.lookup other := by
  induction entries with
  | nil => rfl
  | cons entry rest ih =>
      obtain ⟨first, t⟩ := entry
      by_cases hfirst : first = name
      · subst first
        rw [List.filter_cons_of_neg (by simp), ih, Keyed.lookup_cons_eq, if_neg hne]
      · rw [List.filter_cons_of_pos (by simpa using hfirst), Keyed.lookup_cons_eq,
          Keyed.lookup_cons_eq, ih]

/-- No file stands where names lead through. -/
def Open (tree : Tree) (place : List String) : Prop :=
  ∀ above, above <+: place → above ≠ place → ∀ content, tree.kindAt? above ≠ some (.file content)

theorem put_cons (sub : Tree) (name : String) (rest : List String)
    (entries : List (String × Tree)) :
    sub.put (name :: rest) (directory entries) =
      directory (setEntry name (sub.put rest ((entries.lookup name).getD empty)) entries) := rfl

theorem below?_put (sub tree : Tree) (place : List String) :
    (sub.put place tree).below? place = some sub := by
  induction place generalizing tree with
  | nil => rfl
  | cons name rest ih =>
      rw [put, below?, lookup_setEntry, if_pos rfl]
      exact ih _

theorem kindAt?_empty {way : List String} (hway : way ≠ []) : empty.kindAt? way = none := by
  cases way with
  | nil => exact absurd rfl hway
  | cons name rest => rw [empty, kindAt?_cons, List.lookup_nil, Option.bind_none]

theorem Open.getD_lookup {entries : List (String × Tree)} {name : String} {rest : List String}
    (hopen : (directory entries).Open (name :: rest)) :
    ((entries.lookup name).getD empty).Open rest := by
  intro above hbegins hne content
  have habove := hopen (name :: above) ((List.prefix_cons_inj name).mpr hbegins)
    (fun heq => hne (List.cons.inj heq).2) content
  rw [kindAt?_cons] at habove
  cases hlookup : entries.lookup name with
  | some next => simpa [hlookup] using habove
  | none =>
      rw [Option.getD_none]
      by_cases hnil : above = []
      · subst above
        exact fun hfile => nomatch Option.some.inj hfile
      · rw [kindAt?_empty hnil]
        simp

/-- What is put at a place changes nothing beside it, apart from the directories on the way. -/
theorem kindAt?_put (hopen : tree.Open place) (hoff : ¬ place <+: way) :
    (sub.put place tree).kindAt? way =
      if way <+: place then some .directory else tree.kindAt? way := by
  induction place generalizing tree way with
  | nil => exact absurd List.nil_prefix hoff
  | cons name rest ih =>
      cases tree with
      | file content =>
          exact absurd rfl (hopen [] List.nil_prefix (List.cons_ne_nil _ _).symm content)
      | directory entries =>
          rw [put_cons]
          cases way with
          | nil => exact (if_pos List.nil_prefix).symm
          | cons other way =>
              rw [kindAt?_cons, kindAt?_cons, lookup_setEntry]
              by_cases hother : other = name
              · -- The induction goes on in the entry, or in the empty directory that is made for it.
                subst other
                rw [if_pos rfl, Option.bind_some]
                simp only [List.prefix_cons_inj] at hoff ⊢
                rw [ih hopen.getD_lookup hoff]
                split
                · rfl
                next hbeside =>
                  cases entries.lookup name with
                  | some next => rfl
                  | none =>
                      refine kindAt?_empty ?_
                      rintro rfl
                      exact hbeside List.nil_prefix
              · have hbeside : ¬ other :: way <+: name :: rest := fun hbegins =>
                  hother (List.cons_prefix_cons.mp hbegins).1
                rw [if_neg hother, if_neg hbeside]

theorem remove_cons (name : String) {rest : List String} (hrest : rest ≠ [])
    (entries : List (String × Tree)) :
    (directory entries).remove (name :: rest) =
      match entries.lookup name with
      | some next => directory (setEntry name (next.remove rest) entries)
      | none => directory entries := by
  cases rest with
  | nil => exact absurd rfl hrest
  | cons next rest => rfl

/-- What is removed takes nothing with it but what is below it. -/
theorem kindAt?_remove (hoff : ¬ place <+: way) :
    (tree.remove place).kindAt? way = tree.kindAt? way := by
  induction place generalizing tree way with
  | nil => exact absurd List.nil_prefix hoff
  | cons name rest ih =>
      cases tree with
      | file content => rw [remove.eq_def]
      | directory entries =>
          by_cases hrest : rest = []
          · subst rest
            rw [remove]
            cases way with
            | nil => rfl
            | cons other way =>
                have hother : other ≠ name := by
                  rintro rfl
                  exact hoff (List.prefix_append [other] way)
                rw [kindAt?_cons, kindAt?_cons, lookup_filter_ne hother]
          · rw [remove_cons name hrest]
            cases hlookup : entries.lookup name with
            | none => rfl
            | some next =>
                cases way with
                | nil => rfl
                | cons other way =>
                    rw [kindAt?_cons, kindAt?_cons, lookup_setEntry]
                    by_cases hother : other = name
                    · subst other
                      rw [List.prefix_cons_inj] at hoff
                      rw [if_pos rfl, hlookup, Option.bind_some, Option.bind_some, ih hoff]
                    · rw [if_neg hother]

/-! ## Changes at a place -/

theorem SameOutside.remove {below : List String} (hbelow : place <+: below) :
    SameOutside place tree (tree.remove below) := by
  intro way hoff
  have hkind : (tree.remove below).kindAt? way = tree.kindAt? way :=
    kindAt?_remove fun hbegins => hoff (hbelow.trans hbegins)
  rw [kindBeside?, kindBeside?, hkind]

theorem kindBeside?_eq_none_of_open {above : List String} (hopen : tree.Open above)
    (hway : way <+: above) (hne : way ≠ above) (hplace : way <+: place) :
    tree.kindBeside? place way = none := by
  rw [kindBeside?]
  cases hkind : tree.kindAt? way with
  | none => exact ite_self none
  | some kind =>
      cases kind with
      | directory => exact if_pos ⟨hplace, rfl⟩
      | file content => exact absurd hkind (hopen way hway hne content)

theorem kindBeside?_of_none (hnone : tree.kindAt? way = none) :
    tree.kindBeside? place way = none := by
  rw [kindBeside?, hnone]
  exact ite_self none

theorem SameOutside.put_below {below : List String} (hbelow : place <+: below)
    (hopen : tree.Open below) : SameOutside place tree (sub.put below tree) := by
  intro way hoff
  have hbeside : ¬ below <+: way := fun hbegins => hoff (hbelow.trans hbegins)
  by_cases hway : way <+: below
  · have hne : way ≠ below := fun heq => hoff (heq ▸ hbelow)
    have hplace : way <+: place :=
      (List.prefix_or_prefix_of_prefix hway hbelow).resolve_right hoff
    rw [kindBeside?_eq_none_of_open hopen hway hne hplace, kindBeside?, kindAt?_put hopen hbeside,
      if_pos hway, if_pos ⟨hplace, rfl⟩]
  · rw [kindBeside?, kindBeside?, kindAt?_put hopen hbeside, if_neg hway]

/-- A directory that is made where a place lies in it is left out of account. -/
theorem SameOutside.put_above {above : List String} (habove : above <+: place)
    (hopen : tree.Open above) (hnone : tree.kindAt? above = none) :
    SameOutside place tree (empty.put above tree) := by
  intro way hoff
  by_cases hway : above <+: way
  · -- Nothing was there before, and what is there now is the directory itself and no more.
    obtain ⟨rest, rfl⟩ := hway
    have hold : tree.kindAt? (above ++ rest) = none := by
      by_contra hsome
      by_cases hrest : rest = []
      · rw [hrest, List.append_nil] at hsome
        exact hsome hnone
      · have hdirectory := kindAt?_of_beginning (List.prefix_append above rest) (by simpa) hsome
        rw [hnone] at hdirectory
        cases hdirectory
    have hnew : (empty.put above tree).kindAt? (above ++ rest) = empty.kindAt? rest :=
      kindAt?_of_below? (below?_put empty tree above) rest
    rw [kindBeside?_of_none hold]
    by_cases hrest : rest = []
    · subst rest
      rw [List.append_nil] at hnew ⊢
      rw [kindBeside?, hnew, if_pos ⟨habove, rfl⟩]
    · rw [kindAt?_empty hrest] at hnew
      rw [kindBeside?_of_none hnew]
  · by_cases hwayAbove : way <+: above
    · have hplace : way <+: place := hwayAbove.trans habove
      have hne : way ≠ above := fun heq => hway (heq ▸ List.prefix_rfl)
      rw [kindBeside?_eq_none_of_open hopen hwayAbove hne hplace, kindBeside?,
        kindAt?_put hopen hway, if_pos hwayAbove, if_pos ⟨hplace, rfl⟩]
    · rw [kindBeside?, kindBeside?, kindAt?_put hopen hway, if_neg hwayAbove]

/-! ## Changes inside and outside the tree -/

theorem change_of_relative {path : Path} (hrelative : path.anchor = .relative)
    (tree changed : Tree) : tree.change path changed = (changed, none) := if_pos hrelative

theorem fst_change_of_anchored {path : Path} (hanchor : path.anchor ≠ .relative)
    (tree changed : Tree) : (tree.change path changed).1 = tree := by
  rw [change, if_neg hanchor]

theorem find_of_anchored {path : Path} (hanchor : path.anchor ≠ .relative) (s t : Tree) :
    s.find path = t.find path := by
  rw [find, find, if_neg hanchor, if_neg hanchor]

theorem makeEach_of_anchored {paths : List Path}
    (hanchors : ∀ path ∈ paths, path.anchor ≠ .relative) : (tree.makeEach paths).1 = tree := by
  induction paths with
  | nil => rfl
  | cons path paths ih =>
      obtain ⟨hanchor, hanchors⟩ := List.forall_mem_cons.mp hanchors
      rw [makeEach]
      split
      · exact ih hanchors
      · rfl
      · rw [change, if_neg hanchor]
      · rfl

theorem makeDirectory_of_anchored {path : Path} (hanchor : path.anchor ≠ .relative) :
    (tree.makeDirectory path).1 = tree := by
  rw [makeDirectory]
  split
  · rfl
  · rfl
  · apply makeEach_of_anchored
    intro above habove
    obtain ⟨n, -, rfl⟩ := List.mem_map.mp habove
    exact hanchor
  · rfl

theorem write_of_anchored {path : Path} (hanchor : path.anchor ≠ .relative)
    (content : List UInt8) : (tree.write content path).1 = tree := by
  have hparent : (tree.makeDirectory path.parent).1 = tree := makeDirectory_of_anchored hanchor
  rw [write]
  split
  next made fault hmakes => rwa [hmakes] at hparent
  next made hmakes =>
    rw [hmakes] at hparent
    obtain rfl : made = tree := hparent
    split
    · rfl
    · exact fst_change_of_anchored hanchor made _
    · exact fst_change_of_anchored hanchor made _
    · rfl

theorem delete_of_anchored {path : Path} (hanchor : path.anchor ≠ .relative) :
    (tree.delete path).1 = tree := by
  rw [delete]
  split
  · exact fst_change_of_anchored hanchor tree _
  · rfl

/-! ## Paths that go straight down -/

theorem open_of_follow {above : List Tree} {here : Tree} {parts : List String}
    (hstraight : ∀ part ∈ parts, part ≠ "..")
    (hthrough : follow above here parts ≠ .error .throughFile)
    (hshort : follow above here parts ≠ .error .tooLong) : here.Open parts := by
  induction parts generalizing above here with
  | nil => exact fun way hway hne => absurd (List.prefix_nil.mp hway) hne
  | cons name parts ih =>
      obtain ⟨hup, hparts⟩ := List.forall_mem_cons.mp hstraight
      cases here with
      | file content => exact absurd rfl hthrough
      | directory entries =>
          rw [follow_name hup] at hthrough hshort
          split at hshort
          · exact absurd rfl hshort
          next hname =>
            rw [if_neg hname] at hthrough
            intro way hway hne content
            cases way with
            | nil => exact fun hfile => nomatch Option.some.inj hfile
            | cons other way =>
                obtain ⟨rfl, hrest⟩ := List.cons_prefix_cons.mp hway
                rw [kindAt?_cons]
                cases hlookup : entries.lookup other with
                | none => simp
                | some next =>
                    rw [hlookup] at hthrough hshort
                    exact ih hparts hthrough hshort way hrest (fun heq => hne (heq ▸ rfl)) content

end Tree

/-- The path goes straight down from where paths are followed. -/
structure Path.Straight (path : Path) : Prop where
  relative : path.anchor = .relative
  down : ∀ part ∈ path.parts, part ≠ ".."

theorem Path.Straight.place_eq {path : Path} (hstraight : path.Straight) :
    path.place = path.parts :=
  walk_of_straight hstraight.down []

namespace Tree

variable {tree : Tree} {place : List String} {path : Path}

theorem follow_of_find (hstraight : path.Straight) {result : Except Absence Tree}
    (hfind : tree.find path = result) (hzero : result ≠ .error .zeroInside)
    (hshort : result ≠ .error .tooLong) : follow [] tree path.parts = result := by
  rw [find, if_pos hstraight.relative] at hfind
  split at hfind
  · exact absurd hfind.symm hzero
  · split at hfind
    · exact absurd hfind.symm hshort
    · exact hfind

/-- A straight path leads through no file if something or nothing is found at its end. -/
theorem open_of_find (hstraight : path.Straight) {result : Except Absence Tree}
    (hfind : tree.find path = result) (hzero : result ≠ .error .zeroInside)
    (hshort : result ≠ .error .tooLong) (hthrough : result ≠ .error .throughFile) :
    tree.Open path.parts := by
  have hfollow := follow_of_find hstraight hfind hzero hshort
  rw [← hfollow] at hshort hthrough
  exact open_of_follow hstraight.down hthrough hshort

theorem kindAt?_of_missing (hstraight : path.Straight)
    (hmissing : tree.find path = .error .missing) : tree.kindAt? path.parts = none := by
  have hfollow := follow_of_find hstraight hmissing (by simp) (by simp)
  have hbelow : (follow [] tree path.parts).toOption = tree.below? path.parts :=
    toOption_follow_of_straight hstraight.down (by simp [hfollow])
  rw [kindAt?, ← hbelow, hfollow]
  rfl

/-- Making directories on the way to a place, or below it, changes nothing outside it. -/
theorem SameOutside.makeEach {paths : List Path}
    (hpaths : ∀ path ∈ paths, path.Straight ∧ (path.parts <+: place ∨ place <+: path.parts)) :
    SameOutside place tree (tree.makeEach paths).1 := by
  induction paths generalizing tree with
  | nil => exact .refl place tree
  | cons path paths ih =>
      obtain ⟨⟨hstraight, haligned⟩, hpaths⟩ := List.forall_mem_cons.mp hpaths
      cases hfind : tree.find path with
      | ok found =>
          cases found with
          | file content =>
              rw [Tree.makeEach, hfind]
              exact .refl place tree
          | directory entries =>
              rw [Tree.makeEach, hfind]
              exact ih hpaths
      | error absence =>
          rw [Tree.makeEach, hfind]
          cases absence with
          | missing =>
              have hopen := open_of_find hstraight hfind (by simp) (by simp) (by simp)
              have hnone := kindAt?_of_missing hstraight hfind
              simp only [change_of_relative hstraight.relative, hstraight.place_eq]
              rcases haligned with habove | hbelow
              · exact (put_above habove hopen hnone).trans (ih hpaths)
              · exact (put_below hbelow hopen).trans (ih hpaths)
          | throughFile => exact .refl place tree
          | tooLong => exact .refl place tree
          | zeroInside => exact .refl place tree

theorem SameOutside.makeDirectory (hstraight : path.Straight)
    (haligned : path.parts <+: place ∨ place <+: path.parts) :
    SameOutside place tree (tree.makeDirectory path).1 := by
  have hdescent : ∀ above ∈ path.descent, above.Straight ∧
      (above.parts <+: place ∨ place <+: above.parts) := by
    intro above habove
    obtain ⟨n, -, rfl⟩ := List.mem_map.mp habove
    have hbegins : path.parts.take (n + 1) <+: path.parts := List.take_prefix _ _
    refine ⟨⟨hstraight.relative, fun part hpart => hstraight.down part (hbegins.subset hpart)⟩, ?_⟩
    rcases haligned with hpath | hplace
    · exact Or.inl (hbegins.trans hpath)
    · exact List.prefix_or_prefix_of_prefix hbegins hplace
  cases hfind : tree.find path with
  | ok found =>
      cases found with
      | file content =>
          rw [Tree.makeDirectory, hfind]
          exact .refl place tree
      | directory entries =>
          rw [Tree.makeDirectory, hfind]
          exact .refl place tree
  | error absence =>
      rw [Tree.makeDirectory, hfind]
      cases absence with
      | missing => exact makeEach hdescent
      | throughFile => exact .refl place tree
      | tooLong => exact .refl place tree
      | zeroInside => exact .refl place tree

theorem SameOutside.write (hstraight : path.Straight) (hbelow : place <+: path.parts)
    (content : List UInt8) : SameOutside place tree (tree.write content path).1 := by
  have hdrop : path.parts.dropLast <+: path.parts := List.dropLast_prefix _
  have hparent : path.parent.Straight :=
    ⟨hstraight.relative, fun part hpart => hstraight.down part (hdrop.subset hpart)⟩
  have hmade : SameOutside place tree (tree.makeDirectory path.parent).1 :=
    makeDirectory hparent (List.prefix_or_prefix_of_prefix hdrop hbelow)
  rw [Tree.write]
  cases hmakes : tree.makeDirectory path.parent with
  | mk made fault =>
      rw [hmakes] at hmade
      cases fault with
      | some fault => exact hmade
      | none =>
          have hput (hopen : made.Open path.parts) : SameOutside place tree
              (made.change path ((file content).put path.place made)).1 := by
            rw [change_of_relative hstraight.relative, hstraight.place_eq]
            exact hmade.trans (put_below hbelow hopen)
          simp only
          cases hfind : made.find path with
          | ok found =>
              cases found with
              | file other =>
                  exact hput (open_of_find hstraight hfind (by simp) (by simp) (by simp))
              | directory entries => exact hmade
          | error absence =>
              cases absence with
              | missing => exact hput (open_of_find hstraight hfind (by simp) (by simp) (by simp))
              | throughFile => exact hmade
              | tooLong => exact hmade
              | zeroInside => exact hmade

theorem SameOutside.delete (hstraight : path.Straight) (hbelow : place <+: path.parts) :
    SameOutside place tree (tree.delete path).1 := by
  rw [Tree.delete]
  cases tree.find path with
  | ok found =>
      simp only [change_of_relative hstraight.relative, hstraight.place_eq]
      exact remove hbelow
  | error absence => exact .refl place tree

end Tree

end SqlFixtures.Files
