import SqlFixtures.Files.Tree
import SqlFixtures.Proofs.Files.Names
import SqlFixtures.Proofs.Keyed
import SqlFixtures.Proofs.Results
import Mathlib.Tactic

/-!
# The files of a tree

A tree holds files, each at the end of a way of names.  In a proper tree, where the entries of each
directory have ordinary names that are all different, the way tells the file.  Following a path that
goes down by ordinary names finds what the tree holds there, unless a name or the path is too long.
-/

namespace SqlFixtures.Files

/-- The content of a file, after the names that lead to it. -/
abbrev Located := List String × List UInt8

namespace Tree

mutual

/-- The files of a tree, each with the names that lead to it. -/
def files : Tree → List Located
  | file content => [([], content)]
  | directory entries => filesAmong entries

def filesAmong : List (String × Tree) → List Located
  | [] => []
  | (name, tree) :: rest => tree.files.map (fun f => (name :: f.1, f.2)) ++ filesAmong rest

end

mutual

/-- The entries of each directory have ordinary names, no two the same. -/
def Proper : Tree → Prop
  | file _ => True
  | directory entries => (entries.map (·.1)).Nodup ∧ ProperAmong entries

def ProperAmong : List (String × Tree) → Prop
  | [] => True
  | (name, tree) :: rest => IsName name ∧ tree.Proper ∧ ProperAmong rest

end

/-- What names lead to, going down only. -/
def below? : Tree → List String → Option Tree
  | tree, [] => some tree
  | file _, _ :: _ => none
  | directory entries, name :: rest => (entries.lookup name).bind fun next => next.below? rest

theorem mem_filesAmong {entries : List (String × Tree)} {f : Located} :
    f ∈ filesAmong entries ↔
      ∃ entry ∈ entries, ∃ inner ∈ entry.2.files, f = (entry.1 :: inner.1, inner.2) := by
  induction entries with
  | nil => simp [filesAmong]
  | cons entry rest ih => simp [filesAmong, ih, eq_comm]

theorem properAmong_iff {entries : List (String × Tree)} :
    ProperAmong entries ↔ ∀ entry ∈ entries, IsName entry.1 ∧ entry.2.Proper := by
  induction entries with
  | nil => simp [ProperAmong]
  | cons entry rest ih => simp [ProperAmong, ih, and_assoc]

theorem below?_append (tree : Tree) (first second : List String) :
    tree.below? (first ++ second) = (tree.below? first).bind fun next => next.below? second := by
  induction first generalizing tree with
  | nil => rfl
  | cons name first ih =>
      cases tree with
      | file content => rfl
      | directory entries =>
          rw [List.cons_append, below?, below?]
          cases entries.lookup name with
          | none => rfl
          | some next => exact ih next

theorem mem_files_iff {tree : Tree} (hproper : tree.Proper) {path : List String}
    {content : List UInt8} :
    (path, content) ∈ tree.files ↔ tree.below? path = some (file content) := by
  induction path generalizing tree with
  | nil =>
      cases tree with
      | file other => simp [files, below?, eq_comm]
      | directory entries => simp [files, below?, mem_filesAmong]
  | cons name path ih =>
      cases tree with
      | file other => simp [files, below?]
      | directory entries =>
          obtain ⟨hnodup, hamong⟩ := hproper
          rw [properAmong_iff] at hamong
          rw [files, mem_filesAmong, below?]
          constructor
          · rintro ⟨⟨_, next⟩, hentry, ⟨_, _⟩, hinner, ⟨⟩⟩
            rw [(Keyed.lookup_eq_some_iff_mem hnodup).mpr hentry]
            exact (ih (hamong _ hentry).2).mp hinner
          · intro hbelow
            obtain ⟨next, hnext, hinner⟩ := Option.bind_eq_some_iff.mp hbelow
            have hentry := (Keyed.lookup_eq_some_iff_mem hnodup).mp hnext
            exact ⟨_, hentry, _, (ih (hamong _ hentry).2).mpr hinner, rfl⟩

/-- Ordinary names lead to what is in a proper tree, which is proper as well. -/
theorem proper_of_below? {tree next : Tree} (hproper : tree.Proper) {path : List String}
    (hbelow : tree.below? path = some next) :
    (∀ name ∈ path, IsName name) ∧ next.Proper := by
  induction path generalizing tree with
  | nil =>
      cases Option.some.inj hbelow
      exact ⟨by simp, hproper⟩
  | cons name path ih =>
      cases tree with
      | file other => cases hbelow
      | directory entries =>
          obtain ⟨hnodup, hamong⟩ := hproper
          rw [properAmong_iff] at hamong
          obtain ⟨child, hchild, hrest⟩ := Option.bind_eq_some_iff.mp hbelow
          obtain ⟨hname, hchildProper⟩ :=
            hamong _ ((Keyed.lookup_eq_some_iff_mem hnodup).mp hchild)
          obtain ⟨hpath, hnext⟩ := ih hchildProper hrest
          exact ⟨by simpa using ⟨hname, hpath⟩, hnext⟩

theorem content_eq_of_mem_files {tree : Tree} (hproper : tree.Proper) {path : List String}
    {content other : List UInt8} (hcontent : (path, content) ∈ tree.files)
    (hother : (path, other) ∈ tree.files) : content = other := by
  rw [mem_files_iff hproper] at hcontent hother
  rw [hcontent] at hother
  cases hother
  rfl

theorem isName_of_mem_files {tree : Tree} (hproper : tree.Proper)
    {f : Located} (hmem : f ∈ tree.files) : ∀ name ∈ f.1, IsName name :=
  (proper_of_below? hproper ((mem_files_iff hproper).mp hmem)).1

theorem mem_files_append_iff {tree next : Tree} (hproper : tree.Proper)
    {above below : List String} {content : List UInt8} (hnext : tree.below? above = some next) :
    (above ++ below, content) ∈ tree.files ↔ (below, content) ∈ next.files := by
  rw [mem_files_iff hproper, below?_append, hnext,
    mem_files_iff (proper_of_below? hproper hnext).2]
  rfl

mutual

theorem nodup_files {tree : Tree} (hproper : tree.Proper) : (tree.files.map (·.1)).Nodup := by
  cases tree with
  | file content => exact List.nodup_singleton _
  | directory entries => exact nodup_filesAmong hproper.1 hproper.2

theorem nodup_filesAmong {entries : List (String × Tree)} (hnodup : (entries.map (·.1)).Nodup)
    (hproper : ProperAmong entries) : ((filesAmong entries).map (·.1)).Nodup := by
  cases entries with
  | nil => exact List.nodup_nil
  | cons entry rest =>
      obtain ⟨name, tree⟩ := entry
      obtain ⟨-, htree, hrest⟩ := hproper
      obtain ⟨hname, hothers⟩ := List.nodup_cons.mp hnodup
      have hfiles : (tree.files.map fun f => name :: f.1).Nodup := by
        have hcons := (nodup_files htree).map (f := List.cons name) List.cons_injective
        rwa [List.map_map] at hcons
      rw [filesAmong, List.map_append, List.map_map, List.nodup_append]
      refine ⟨hfiles, nodup_filesAmong hothers hrest, ?_⟩
      rintro _ hfirst way hsecond rfl
      obtain ⟨f, -, rfl⟩ := List.mem_map.mp hfirst
      obtain ⟨g, hg, hway⟩ := List.mem_map.mp hsecond
      obtain ⟨entry, hentry, inner, -, rfl⟩ := mem_filesAmong.mp hg
      exact hname (List.mem_map.mpr ⟨entry, hentry, (List.cons.inj hway).1⟩)

end

/-! ## Entries in order -/

theorem ordered_sortedEntries (tree : Tree) : Keyed.Ordered tree.sortedEntries :=
  Keyed.ordered_ofList _

theorem mem_sortedEntries {entries : List (String × Tree)} (hnodup : (entries.map (·.1)).Nodup)
    {entry : String × Tree} : entry ∈ (directory entries).sortedEntries ↔ entry ∈ entries := by
  have hreverse : (entries.reverse.map (·.1)).Nodup := by
    rw [List.map_reverse]
    exact List.nodup_reverse.mpr hnodup
  exact (Keyed.perm_ofList hreverse).mem_iff.trans List.mem_reverse

theorem lookup_sortedEntries (entries : List (String × Tree)) (name : String) :
    (directory entries).sortedEntries.lookup name = entries.lookup name := by
  rw [sortedEntries, Keyed.lookup_ofList, List.reverse_reverse]
  rfl

theorem nodup_keys_sortedEntries (tree : Tree) : (tree.sortedEntries.map (·.1)).Nodup :=
  Keyed.nodup_keys_of_ordered (ordered_sortedEntries tree)

theorem mem_sortedEntries_iff_lookup {entries : List (String × Tree)} {entry : String × Tree} :
    entry ∈ (directory entries).sortedEntries ↔ entries.lookup entry.1 = some entry.2 := by
  rw [← lookup_sortedEntries, Keyed.lookup_eq_some_iff_mem (nodup_keys_sortedEntries _)]

/-! ## Following paths -/

theorem follow_name {above : List Tree} {entries : List (String × Tree)} {name : String}
    (hup : name ≠ "..") (rest : List String) :
    follow above (directory entries) (name :: rest) =
      if longestName < name.utf8ByteSize then .error .tooLong
      else
        match entries.lookup name with
        | some next => follow (directory entries :: above) next rest
        | none => .error .missing := by
  cases above with
  | nil =>
      rw [follow]
      exact if_neg hup
  | cons parent higher =>
      rw [follow]
      exact if_neg hup

/-- Names lead from the root of a tree through the directories `above`, nearest first, to `here`. -/
inductive Stands (root : Tree) : List String → List Tree → Tree → Prop where
  | top : Stands root [] [] root
  | entry {way above entries name next} (hstands : Stands root way above (directory entries))
      (hnext : entries.lookup name = some next) :
      Stands root (way ++ [name]) (directory entries :: above) next

theorem Stands.below?_eq {root here : Tree} {way : List String} {above : List Tree}
    (hstands : Stands root way above here) : root.below? way = some here := by
  induction hstands with
  | top => rfl
  | entry _ hnext ih =>
      rw [below?_append, ih, Option.bind_some, below?, hnext]
      rfl

/-- Components that lead somewhere do so through directories. -/
theorem Stands.exists_of_follow {root here next : Tree} {way : List String} {above : List Tree}
    (hstands : Stands root way above here) {first : List String}
    (hfirst : follow above here first = .ok next) :
    ∃ place higher, Stands root place higher next ∧
      ∀ second, follow above here (first ++ second) = follow higher next second := by
  induction first generalizing way above here with
  | nil =>
      obtain rfl := Except.ok.inj hfirst
      exact ⟨way, above, hstands, fun _ => rfl⟩
  | cons name first ih =>
      cases here with
      | file content => cases hfirst
      | directory entries =>
          by_cases hup : name = ".."
          · subst name
            cases hstands with
            | top => exact ih .top hfirst
            | entry hstands hnext => exact ih hstands hfirst
          · rw [follow_name hup] at hfirst
            split at hfirst
            · cases hfirst
            next hshort =>
              cases hlookup : entries.lookup name with
              | none =>
                  rw [hlookup] at hfirst
                  cases hfirst
              | some child =>
                  rw [hlookup] at hfirst
                  obtain ⟨place, higher, hplace, hsecond⟩ := ih (.entry hstands hlookup) hfirst
                  refine ⟨place, higher, hplace, fun second => ?_⟩
                  rw [List.cons_append, follow_name hup, if_neg hshort, hlookup]
                  exact hsecond second

/-- Going down leads to what is there, unless a name is too long. -/
theorem toOption_follow_of_straight {above : List Tree} {here : Tree} {names : List String}
    (hstraight : ∀ name ∈ names, name ≠ "..")
    (hshort : follow above here names ≠ .error .tooLong) :
    (follow above here names).toOption = here.below? names := by
  induction names generalizing above here with
  | nil => rfl
  | cons name names ih =>
      cases here with
      | file content => rfl
      | directory entries =>
          obtain ⟨hup, hnames⟩ := List.forall_mem_cons.mp hstraight
          rw [follow_name hup] at hshort ⊢
          split at hshort
          · exact absurd rfl hshort
          next hname =>
            rw [if_neg hname, below?]
            cases hlookup : entries.lookup name with
            | none => rfl
            | some child =>
                rw [hlookup] at hshort
                exact ih hnames hshort

theorem toOption_follow {above : List Tree} {here : Tree} {names : List String}
    (hnames : ∀ name ∈ names, IsName name)
    (hshort : follow above here names ≠ .error .tooLong) :
    (follow above here names).toOption = here.below? names :=
  toOption_follow_of_straight (fun name hname => (hnames name hname).2.2.1) hshort

theorem look_eq_ok_iff {tree : Tree} {path : Path} {found : Option Tree} :
    tree.look path = .ok found ↔
      tree.find path ≠ .error .tooLong ∧ (tree.find path).toOption = found := by
  rw [look]
  cases tree.find path with
  | ok next => simp [Except.toOption]
  | error absence =>
      cases absence with
      | tooLong => simp
      | missing => simp [Except.toOption]
      | throughFile => simp [Except.toOption]
      | zeroInside => simp [Except.toOption]

theorem find_of_look {tree next : Tree} {path : Path} (hlook : tree.look path = .ok (some next)) :
    tree.find path = .ok next :=
  Results.toOption_eq_some_iff.mp (look_eq_ok_iff.mp hlook).2

theorem find_eq_ok_iff {tree next : Tree} {path : Path} :
    tree.find path = .ok next ↔
      '\x00' ∉ path.text.toList ∧ ¬ longestPath < path.text.utf8ByteSize ∧
        follow [] (if path.anchor = .relative then tree else empty) path.parts = .ok next := by
  rw [find, List.contains_eq_mem]
  split
  · simp_all
  · split
    · simp_all
    · simp_all

/-- Wherever a path leads in a proper tree, what is there is proper as well. -/
theorem proper_of_follow {above : List Tree} {here found : Tree} {names : List String}
    (habove : ∀ tree ∈ above, tree.Proper) (hhere : here.Proper)
    (hfollow : follow above here names = .ok found) : found.Proper := by
  induction names generalizing above here with
  | nil =>
      obtain rfl := Except.ok.inj hfollow
      exact hhere
  | cons name names ih =>
      cases here with
      | file content => cases hfollow
      | directory entries =>
          by_cases hup : name = ".."
          · subst name
            cases above with
            | nil => exact ih habove hhere hfollow
            | cons parent higher =>
                obtain ⟨hparent, hhigher⟩ := List.forall_mem_cons.mp habove
                exact ih hhigher hparent hfollow
          · rw [follow_name hup] at hfollow
            split at hfollow
            · cases hfollow
            cases hlookup : entries.lookup name with
            | none =>
                rw [hlookup] at hfollow
                cases hfollow
            | some next =>
                rw [hlookup] at hfollow
                have hmem := (Keyed.lookup_eq_some_iff_mem hhere.1).mp hlookup
                have hnext := (properAmong_iff.mp hhere.2 _ hmem).2
                exact ih (List.forall_mem_cons.mpr ⟨hhere, habove⟩) hnext hfollow

theorem proper_of_find {tree found : Tree} {path : Path} (hproper : tree.Proper)
    (hfind : tree.find path = .ok found) : found.Proper := by
  obtain ⟨-, -, hfollow⟩ := find_eq_ok_iff.mp hfind
  have hroot : (if path.anchor = .relative then tree else empty).Proper := by
    split
    · exact hproper
    · exact ⟨List.nodup_nil, trivial⟩
  exact proper_of_follow (by simp) hroot hfollow

/-- Nothing leads on from a file. -/
theorem eq_nil_of_find_extend {tree found : Tree} {path : Path} {content : List UInt8}
    (hfile : tree.find path = .ok (file content)) {names : List String}
    (hfound : tree.find (path.extend names) = .ok found) : names = [] := by
  obtain ⟨-, -, hfollow⟩ := find_eq_ok_iff.mp hfile
  obtain ⟨-, -, hextended⟩ := find_eq_ok_iff.mp hfound
  obtain ⟨-, higher, -, happend⟩ := Stands.top.exists_of_follow hfollow
  have hbelow : follow higher (file content) names = .ok found :=
    (happend names).symm.trans hextended
  cases names with
  | nil => rfl
  | cons name rest => cases hbelow

theorem find_extend {tree next : Tree} {path : Path} (hfind : tree.find path = .ok next)
    {names : List String} (hnames : ∀ name ∈ names, IsName name) :
    tree.find (path.extend names) = .error .tooLong ∨
      ∃ higher, tree.find (path.extend names) = follow higher next names := by
  obtain ⟨hzero, -, hfollow⟩ := find_eq_ok_iff.mp hfind
  obtain ⟨-, higher, -, happend⟩ := Stands.top.exists_of_follow hfollow
  have hfree : '\x00' ∉ (path.extend names).text.toList := by
    rw [Path.zero_mem_text_iff]
    rintro ⟨part, hpart, hmem⟩
    rcases List.mem_append.mp hpart with hpart | hpart
    · exact hzero (Path.zero_mem_text_iff.mpr ⟨part, hpart, hmem⟩)
    · exact (hnames part hpart).2.2.2.2 hmem
  rw [Path.extend] at hfree ⊢
  rw [find, if_neg (by simpa using hfree)]
  split
  · exact Or.inl rfl
  · exact Or.inr ⟨higher, happend names⟩

/-- Below a path that leads to a tree, ordinary names lead to what the tree holds. -/
theorem look_extend {tree next : Tree} {path : Path} (hfind : tree.find path = .ok next)
    {names : List String} (hnames : ∀ name ∈ names, IsName name) {found : Option Tree}
    (hlook : tree.look (path.extend names) = .ok found) :
    found = next.below? names := by
  obtain ⟨hshort, rfl⟩ := look_eq_ok_iff.mp hlook
  rcases find_extend hfind hnames with hlong | ⟨higher, hfollow⟩
  · exact absurd hlong hshort
  · rw [hfollow] at hshort ⊢
    exact toOption_follow hnames hshort

/-- A path of too many names is too long, whatever the names are. -/
theorem look_of_many_parts (tree : Tree) {path : Path}
    (hnames : ∀ part ∈ path.parts, IsName part) (hmany : longestPath < path.parts.length) :
    tree.look path = .error (.nameTooLong path.text) := by
  have hzero := Path.zero_not_mem_text hnames
  have hlong : longestPath < path.text.utf8ByteSize := by
    have hslashed := length_le_utf8ByteSize_slashed fun part hpart => (hnames part hpart).1
    have htext := Path.utf8ByteSize_slashed_le_text path
    omega
  have htooLong : tree.find path = .error .tooLong := by
    rw [find, if_neg (by simpa using hzero), if_pos hlong]
  rw [look, htooLong]

theorem look_extend_of_long {tree : Tree} {entries : List (String × Tree)} {path : Path}
    (hfind : tree.find path = .ok (directory entries)) {name : String} (hname : IsName name)
    (hlong : longestName < name.utf8ByteSize) :
    tree.look (path.extend [name]) = .error (.nameTooLong (path.extend [name]).text) := by
  have htooLong : tree.find (path.extend [name]) = .error .tooLong := by
    rcases find_extend hfind (List.forall_mem_singleton.mpr hname) with hpath | ⟨higher, hfollow⟩
    · exact hpath
    · rw [hfollow, follow_name hname.2.2.1, if_pos hlong]
  rw [look, htooLong]

end Tree

end SqlFixtures.Files
