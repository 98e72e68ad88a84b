import SqlFixtures.Proofs.Files.Trees
import SqlFixtures.Proofs.Results
import Mathlib.Tactic

/-!
# Trees that agree outside a place

Two trees agree outside a place if every way that does not lead into the place leads to the same in
both.  The directories that the place lies in are left out of account, since they come into being
with it.  A path that stays off the place then leads to the same in both trees, if it leads to
something beside the place and none of its names is too long.
-/

namespace SqlFixtures.Files

/-! ## Where components lead -/

/-- Where a component leads from a place. -/
def advance (way : List String) (name : String) : List String :=
  if name = ".." then way.dropLast else way ++ [name]

/-- Where components lead from a place, if all that they go through are directories. -/
def walk (way parts : List String) : List String := parts.foldl advance way

theorem Path.place_eq_walk (path : Path) : path.place = walk [] path.parts := rfl

theorem walk_append (way first second : List String) :
    walk way (first ++ second) = walk (walk way first) second :=
  List.foldl_append

theorem advance_of_ne {name : String} (hname : name ≠ "..") (way : List String) :
    advance way name = way ++ [name] := if_neg hname

theorem walk_of_straight {parts : List String} (hstraight : ∀ part ∈ parts, part ≠ "..")
    (way : List String) : walk way parts = way ++ parts := by
  induction parts generalizing way with
  | nil => exact (List.append_nil way).symm
  | cons name parts ih =>
      obtain ⟨hname, hparts⟩ := List.forall_mem_cons.mp hstraight
      rw [walk, List.foldl_cons, advance_of_ne hname]
      exact (ih hparts _).trans (List.append_assoc ..)

namespace Tree

inductive Kind where
  | directory
  | file (content : List UInt8)
  deriving DecidableEq

def kind : Tree → Kind
  | file content => .file content
  | directory _ => .directory

/-- What names lead to, going down only, as far as it can be told without looking into it. -/
def kindAt? (tree : Tree) (way : List String) : Option Kind := (tree.below? way).map kind

theorem kind_eq_directory_iff {tree : Tree} :
    tree.kind = .directory ↔ ∃ entries, tree = directory entries := by
  cases tree with
  | file content => simp [kind]
  | directory entries => simp [kind]

theorem kind_eq_file_iff {tree : Tree} {content : List UInt8} :
    tree.kind = .file content ↔ tree = file content := by
  cases tree with
  | file other => simp [kind]
  | directory entries => simp [kind]

theorem kindAt?_eq_directory_iff {tree : Tree} {way : List String} :
    tree.kindAt? way = some .directory ↔ ∃ entries, tree.below? way = some (directory entries) := by
  simp only [kindAt?, Option.map_eq_some_iff, kind_eq_directory_iff]
  constructor
  · rintro ⟨_, hbelow, entries, rfl⟩
    exact ⟨entries, hbelow⟩
  · rintro ⟨entries, hbelow⟩
    exact ⟨_, hbelow, entries, rfl⟩

theorem kindAt?_eq_file_iff {tree : Tree} {way : List String} {content : List UInt8} :
    tree.kindAt? way = some (.file content) ↔ tree.below? way = some (file content) := by
  simp only [kindAt?, Option.map_eq_some_iff, kind_eq_file_iff, exists_eq_right]

theorem kindAt?_of_below? {tree next : Tree} {first : List String}
    (hnext : tree.below? first = some next) (second : List String) :
    tree.kindAt? (first ++ second) = next.kindAt? second := by
  rw [kindAt?, below?_append, hnext]
  rfl

/-- Whatever lies below something, that is a directory. -/
theorem kindAt?_of_beginning {tree : Tree} {above way : List String} (hbegins : above <+: way)
    (hne : above ≠ way) (hway : tree.kindAt? way ≠ none) :
    tree.kindAt? above = some .directory := by
  obtain ⟨rest, rfl⟩ := hbegins
  rw [kindAt?, below?_append] at hway
  cases habove : tree.below? above with
  | none => simp [habove] at hway
  | some next =>
      cases next with
      | directory entries => exact kindAt?_eq_directory_iff.mpr ⟨entries, habove⟩
      | file content =>
          cases rest with
          | nil => simp at hne
          | cons name rest => simp [habove, below?] at hway

/-! ## Following components -/

/-- All that components go through are directories. -/
def Passable (root : Tree) (way parts : List String) : Prop :=
  ∀ n < parts.length, root.kindAt? (walk way (parts.take n)) = some .directory

theorem passable_cons_iff {root : Tree} {way : List String} {name : String}
    {parts : List String} :
    Passable root way (name :: parts) ↔
      root.kindAt? way = some .directory ∧ Passable root (advance way name) parts := by
  rw [Passable, List.length_cons, Nat.forall_lt_succ_left]
  rfl

theorem kindAt?_ne_none_of_passable {root : Tree} {way parts : List String}
    (hpassable : Passable root way parts) (hend : root.kindAt? (walk way parts) ≠ none) :
    root.kindAt? way ≠ none := by
  cases parts with
  | nil => exact hend
  | cons name parts =>
      rw [(passable_cons_iff.mp hpassable).1]
      simp

/-- Components lead to what is at the end of their walk if all that they go through are
directories, and otherwise to nothing. -/
theorem follow_eq_ok_iff {root : Tree} {way : List String} {above : List Tree} {here next : Tree}
    (hstands : Stands root way above here) {parts : List String}
    (hshort : ∀ part ∈ parts, part.utf8ByteSize ≤ longestName) :
    follow above here parts = .ok next ↔
      Passable root way parts ∧ root.below? (walk way parts) = some next := by
  induction parts generalizing way above here with
  | nil =>
      rw [follow, walk, List.foldl_nil, hstands.below?_eq]
      simp [Passable]
  | cons name parts ih =>
      obtain ⟨hname, hparts⟩ := List.forall_mem_cons.mp hshort
      have hhere : root.kindAt? way = some here.kind := by
        rw [kindAt?, hstands.below?_eq, Option.map_some]
      rw [passable_cons_iff, hhere, walk, List.foldl_cons, and_assoc]
      cases here with
      | file content => simp [follow, kind]
      | directory entries =>
          simp only [kind, true_and]
          by_cases hup : name = ".."
          · subst name
            cases hstands with
            | top => exact ih .top hparts
            | entry hstands hnext =>
                rw [advance, if_pos rfl, List.dropLast_concat]
                exact ih hstands hparts
          · rw [follow_name hup, if_neg hname.not_gt, advance_of_ne hup]
            cases hlookup : entries.lookup name with
            | some child => exact ih (.entry hstands hlookup) hparts
            | none =>
                have hnone : root.kindAt? (way ++ [name]) = none := by
                  rw [kindAt?_of_below? hstands.below?_eq, kindAt?, below?, hlookup]
                  rfl
                constructor
                · intro hfound
                  cases hfound
                · rintro ⟨hpassable, hbelow⟩
                  have hend : root.kindAt? (walk (way ++ [name]) parts) ≠ none := by
                    rw [walk, kindAt?, hbelow]
                    simp
                  exact absurd hnone (kindAt?_ne_none_of_passable hpassable hend)

theorem follow_ne_tooLong {parts : List String}
    (hshort : ∀ part ∈ parts, part.utf8ByteSize ≤ longestName) (above : List Tree) (here : Tree) :
    follow above here parts ≠ .error .tooLong := by
  induction parts generalizing above here with
  | nil => simp [follow]
  | cons name parts ih =>
      obtain ⟨hname, hparts⟩ := List.forall_mem_cons.mp hshort
      cases here with
      | file content => simp [follow]
      | directory entries =>
          by_cases hup : name = ".."
          · subst name
            cases above with
            | nil => exact ih hparts [] _
            | cons parent higher => exact ih hparts higher parent
          · rw [follow_name hup, if_neg hname.not_gt]
            cases entries.lookup name with
            | some next => exact ih hparts _ next
            | none => simp

/-! ## Agreement -/

/-- The trees cannot be told apart by going down in them. -/
def Same (s t : Tree) : Prop := ∀ way, s.kindAt? way = t.kindAt? way

theorem Same.kind_eq {s t : Tree} (hsame : Same s t) : s.kind = t.kind := by
  have hkinds := hsame []
  simpa [kindAt?, below?] using hkinds

section

variable {entries others : List (String × Tree)}

theorem kindAt?_cons (name : String) (rest : List String) :
    (directory entries).kindAt? (name :: rest) =
      (entries.lookup name).bind fun next => next.kindAt? rest := by
  rw [kindAt?, below?, Option.map_bind]
  rfl

theorem Same.lookup_eq_none_iff (hsame : Same (directory entries) (directory others))
    {name : String} : entries.lookup name = none ↔ others.lookup name = none := by
  have hnone (entries : List (String × Tree)) :
      (directory entries).kindAt? [name] = none ↔ entries.lookup name = none := by
    rw [kindAt?_cons]
    cases entries.lookup name with
    | none => simp
    | some next => simp [kindAt?, below?]
  rw [← hnone, ← hnone, hsame]

/-- The entries of directories that are the same have the same names, and are the same under each
name. -/
theorem Same.sortedEntries (hsame : Same (directory entries) (directory others)) :
    List.Forall₂ (fun x y => x.1 = y.1 ∧ Same x.2 y.2) (directory entries).sortedEntries
      (directory others).sortedEntries := by
  have hkeys : (directory entries).sortedEntries.map (·.1) =
      (directory others).sortedEntries.map (·.1) := by
    apply Keyed.eq_of_pairwise_lt
    · exact List.pairwise_map.mpr (ordered_sortedEntries _)
    · exact List.pairwise_map.mpr (ordered_sortedEntries _)
    · intro name
      rw [← not_iff_not, ← Keyed.lookup_eq_none_iff_not_mem, ← Keyed.lookup_eq_none_iff_not_mem,
        lookup_sortedEntries, lookup_sortedEntries, hsame.lookup_eq_none_iff]
  apply Keyed.forall₂_of_lookup hkeys (nodup_keys_sortedEntries _)
  intro name x y hx hy rest
  rw [lookup_sortedEntries] at hx hy
  have hkinds := hsame (name :: rest)
  rwa [kindAt?_cons, kindAt?_cons, hx, hy] at hkinds

end

/-- What names lead to, where a directory that the place lies in counts as nothing. -/
def kindBeside? (place : List String) (tree : Tree) (way : List String) : Option Kind :=
  if way <+: place ∧ tree.kindAt? way = some .directory then none else tree.kindAt? way

/-- Nothing but what is at a place and below it tells the trees apart, nor does it matter which of
the directories are there that only the place needs. -/
def SameOutside (place : List String) (s t : Tree) : Prop :=
  ∀ way, ¬ place <+: way → s.kindBeside? place way = t.kindBeside? place way

section

variable {place way : List String} {s t u : Tree}

theorem SameOutside.refl (place : List String) (s : Tree) : SameOutside place s s :=
  fun _ _ => rfl

theorem SameOutside.symm (hagree : SameOutside place s t) : SameOutside place t s :=
  fun way hoff => (hagree way hoff).symm

theorem SameOutside.trans (hfirst : SameOutside place s t) (hsecond : SameOutside place t u) :
    SameOutside place s u :=
  fun way hoff => (hfirst way hoff).trans (hsecond way hoff)

theorem kindBeside?_of_not_beginning (hbeside : ¬ way <+: place) :
    s.kindBeside? place way = s.kindAt? way :=
  if_neg fun h => hbeside h.1

theorem kindBeside?_eq_file_iff {content : List UInt8} :
    s.kindBeside? place way = some (.file content) ↔ s.kindAt? way = some (.file content) := by
  rw [kindBeside?]
  split
  next hdirectory => simp [hdirectory.2]
  next => rfl

theorem SameOutside.kindAt?_eq (hagree : SameOutside place s t) (hoff : ¬ place <+: way)
    (hbeside : ¬ way <+: place) : s.kindAt? way = t.kindAt? way := by
  have hkinds := hagree way hoff
  rwa [kindBeside?_of_not_beginning hbeside, kindBeside?_of_not_beginning hbeside] at hkinds

theorem SameOutside.file_iff (hagree : SameOutside place s t) (hoff : ¬ place <+: way)
    {content : List UInt8} :
    s.kindAt? way = some (.file content) ↔ t.kindAt? way = some (.file content) := by
  rw [← kindBeside?_eq_file_iff, hagree way hoff, kindBeside?_eq_file_iff]

end

/-! ## Next to the place -/

section

variable {above parts : List String} {name other : String} {s t : Tree}

theorem apart_of_ne (hne : name ≠ other) (rest : List String) :
    ¬ above ++ [other] <+: above ++ [name] ++ rest ∧
      ¬ above ++ [name] ++ rest <+: above ++ [other] := by
  simp only [List.append_assoc, List.prefix_append_right_inj, List.singleton_append,
    List.cons_prefix_cons]
  exact ⟨fun h => hne h.1.symm, fun h => hne h.1⟩

theorem SameOutside.exists_same (hagree : SameOutside (above ++ [other]) s t) (hne : name ≠ other)
    {x : Tree} (hx : s.below? (above ++ [name]) = some x) :
    ∃ y, t.below? (above ++ [name]) = some y ∧ Same x y := by
  have hkinds (rest : List String) :
      s.kindAt? (above ++ [name] ++ rest) = t.kindAt? (above ++ [name] ++ rest) :=
    hagree.kindAt?_eq (apart_of_ne hne rest).1 (apart_of_ne hne rest).2
  have hhere := hkinds []
  rw [List.append_nil, kindAt?, hx, Option.map_some, eq_comm, kindAt?,
    Option.map_eq_some_iff] at hhere
  obtain ⟨y, hy, -⟩ := hhere
  refine ⟨y, hy, fun rest => ?_⟩
  rw [← kindAt?_of_below? hx, ← kindAt?_of_below? hy, hkinds rest]

/-- What components go through in one tree they can go through in the other, if something stands
next to the place there. -/
theorem SameOutside.passable (hagree : SameOutside (above ++ [other]) s t)
    (hoff : ∀ n, ¬ above ++ [other] <+: walk [] (parts.take n))
    (hpassable : Passable s [] parts) (hend : t.kindAt? (above ++ [name]) ≠ none) :
    Passable t [] parts := by
  intro n hn
  by_cases hbeside : walk [] (parts.take n) <+: above ++ [other]
  · -- A directory above the place may be missing in `t`, but not if something lies below it.
    rcases List.prefix_concat_iff.mp hbeside with hplace | habove
    · exact absurd (hplace ▸ List.prefix_rfl) (hoff n)
    · apply kindAt?_of_beginning (habove.trans (List.prefix_append above [name])) _ hend
      intro heq
      have hlength := habove.length_le
      rw [heq, List.length_append] at hlength
      simp at hlength
  · rw [← hagree.kindAt?_eq (hoff n) hbeside]
    exact hpassable n hn

theorem SameOutside.follow_of_follow (hagree : SameOutside (above ++ [other]) s t)
    (hne : name ≠ other) (hwalk : walk [] parts = above ++ [name])
    (hoff : ∀ n, ¬ above ++ [other] <+: walk [] (parts.take n))
    (hshort : ∀ part ∈ parts, part.utf8ByteSize ≤ longestName) {x : Tree}
    (hx : follow [] s parts = .ok x) : ∃ y, follow [] t parts = .ok y ∧ Same x y := by
  obtain ⟨hpassable, hbelow⟩ := (follow_eq_ok_iff .top hshort).mp hx
  rw [hwalk] at hbelow
  obtain ⟨y, hy, hsame⟩ := hagree.exists_same hne hbelow
  have hend : t.kindAt? (above ++ [name]) ≠ none := by simp [kindAt?, hy]
  refine ⟨y, (follow_eq_ok_iff .top hshort).mpr ⟨?_, by rw [hwalk, hy]⟩, hsame⟩
  exact hagree.passable hoff hpassable hend

end

/-! ## What paths lead to -/

/-- Looking at a path has led to the same in two trees. -/
inductive LooksSame : Except Fault (Option Tree) → Except Fault (Option Tree) → Prop where
  | fault (fault : Fault) : LooksSame (.error fault) (.error fault)
  | nothing : LooksSame (.ok none) (.ok none)
  | found {x y : Tree} (hsame : Same x y) : LooksSame (.ok (some x)) (.ok (some y))

theorem looksSame_of_find {s t : Tree} {path : Path}
    (hlong : s.find path = .error .tooLong ↔ t.find path = .error .tooLong)
    (hforward : ∀ x, s.find path = .ok x → ∃ y, t.find path = .ok y ∧ Same x y)
    (hback : ∀ y, t.find path = .ok y → ∃ x, s.find path = .ok x) :
    LooksSame (s.look path) (t.look path) := by
  cases hs : s.find path with
  | ok x =>
      obtain ⟨y, ht, hsame⟩ := hforward x hs
      rw [look, look, hs, ht]
      exact .found hsame
  | error absence =>
      by_cases htooLong : absence = .tooLong
      · subst absence
        rw [look, look, hs, hlong.mp hs]
        exact .fault _
      · have hnothing : s.look path = .ok none :=
          look_eq_ok_iff.mpr ⟨by simpa [hs] using htooLong, by simp [hs, Except.toOption]⟩
        have hother : t.look path = .ok none := by
          refine look_eq_ok_iff.mpr ⟨fun ht => htooLong ?_, ?_⟩
          · have hs' := hlong.mpr ht
            rw [hs] at hs'
            exact Except.error.inj hs'
          · cases ht : t.find path with
            | error _ => rfl
            | ok y =>
                obtain ⟨x, hx⟩ := hback y ht
                rw [hs] at hx
                cases hx
        rw [hnothing, hother]
        exact .nothing

/-- Only the path as a whole can be too long, if none of its names is. -/
theorem find_eq_tooLong_iff {path : Path}
    (hshort : ∀ part ∈ path.parts, part.utf8ByteSize ≤ longestName) (tree : Tree) :
    tree.find path = .error .tooLong ↔
      '\x00' ∉ path.text.toList ∧ longestPath < path.text.utf8ByteSize := by
  rw [find, List.contains_eq_mem]
  split
  · simp_all
  · split
    · simp_all
    · simp_all [follow_ne_tooLong]

end Tree

/-- The path does not go into the place, and none of its names is too long. -/
structure Path.StaysOff (path : Path) (place : List String) : Prop where
  short : ∀ part ∈ path.parts, part.utf8ByteSize ≤ longestName
  off : ∀ n, ¬ place <+: walk [] (path.parts.take n)

theorem Path.staysOff_of_down {path : Path} (hdown : ∀ part ∈ path.parts, part ≠ "..")
    (hshort : ∀ part ∈ path.parts, part.utf8ByteSize ≤ longestName) (name : String) :
    path.StaysOff (path.place ++ [name]) := by
  refine ⟨hshort, fun n hplace => ?_⟩
  have hbegins : path.parts.take n <+: path.parts := List.take_prefix _ _
  have hlength := hplace.length_le
  rw [place_eq_walk, walk_of_straight hdown, List.nil_append, List.length_append,
    List.length_singleton, walk_of_straight fun part hpart => hdown part (hbegins.subset hpart),
    List.nil_append] at hlength
  have hbound := hbegins.length_le
  omega

namespace Tree

theorem SameOutside.find_of_find {path : Path} {above : List String} {name other : String}
    {s t : Tree} (hagree : SameOutside (above ++ [other]) s t) (hne : name ≠ other)
    (hplace : path.place = above ++ [name]) (hpath : path.StaysOff (above ++ [other])) {x : Tree}
    (hx : s.find path = .ok x) : ∃ y, t.find path = .ok y ∧ Same x y := by
  obtain ⟨hzero, hlength, hfollow⟩ := find_eq_ok_iff.mp hx
  by_cases hrelative : path.anchor = .relative
  · rw [if_pos hrelative] at hfollow
    obtain ⟨y, hy, hsame⟩ := hagree.follow_of_follow hne hplace hpath.off hpath.short hfollow
    exact ⟨y, find_eq_ok_iff.mpr ⟨hzero, hlength, by rwa [if_pos hrelative]⟩, hsame⟩
  · rw [if_neg hrelative] at hfollow
    exact ⟨x, find_eq_ok_iff.mpr ⟨hzero, hlength, by rwa [if_neg hrelative]⟩, fun _ => rfl⟩

/-- A path that stays off a place leads to the same in trees that agree outside it, if it leads to
something next to the place. -/
theorem SameOutside.looksSame {path : Path} {above : List String} {name other : String}
    {s t : Tree} (hagree : SameOutside (above ++ [other]) s t) (hne : name ≠ other)
    (hplace : path.place = above ++ [name]) (hpath : path.StaysOff (above ++ [other])) :
    LooksSame (s.look path) (t.look path) := by
  apply looksSame_of_find
  · rw [find_eq_tooLong_iff hpath.short, find_eq_tooLong_iff hpath.short]
  · exact fun x hx => hagree.find_of_find hne hplace hpath hx
  · intro y hy
    obtain ⟨x, hx, -⟩ := hagree.symm.find_of_find hne hplace hpath hy
    exact ⟨x, hx⟩

/-- A path that goes down only, and not into the place, leads to the same files. -/
theorem SameOutside.find_file_iff {path : Path} {place : List String} {s t : Tree}
    (hagree : SameOutside place s t) (hdown : ∀ part ∈ path.parts, part ≠ "..")
    (hshort : ∀ part ∈ path.parts, part.utf8ByteSize ≤ longestName)
    (hoff : ¬ place <+: path.parts) (content : List UInt8) :
    s.find path = .ok (file content) ↔ t.find path = .ok (file content) := by
  have hfollow (u : Tree) : follow [] u path.parts = .ok (file content) ↔
      u.kindAt? path.parts = some (.file content) := by
    rw [← Results.toOption_eq_some_iff,
      toOption_follow_of_straight hdown (follow_ne_tooLong hshort [] u), kindAt?_eq_file_iff]
  rw [find_eq_ok_iff, find_eq_ok_iff]
  by_cases hrelative : path.anchor = .relative
  · rw [if_pos hrelative, if_pos hrelative, hfollow, hfollow, hagree.file_iff hoff]
  · rw [if_neg hrelative, if_neg hrelative]

end Tree

end SqlFixtures.Files
