import SqlFixtures.Proofs.Files.Agreement
import SqlFixtures.Proofs.Source.Archive
import SqlFixtures.Source.Probe
import Mathlib.Tactic

/-!
# Sources that agree outside a category

What a source lists for one category depends on nothing that is filed under another one.  In a
directory the two are places next to each other; in an archive no entry name has both beginnings.
The documents that are listed for the two never have the same name.
-/

namespace SqlFixtures

open Files (IsName Path Tree)

namespace Files

theorem eq_of_append_slash_eq {name other x y : String} (hname : '/' ∉ name.toList)
    (hother : '/' ∉ other.toList) (heq : name ++ ("/" ++ x) = other ++ ("/" ++ y)) :
    name = other := by
  have hfields (s t : String) (hs : '/' ∉ s.toList) :
      Text.fields '/' (s ++ ("/" ++ t)).toList = s.toList :: Text.fields '/' t.toList := by
    rw [String.toList_append, String.toList_append]
    exact (Text.fields_append_separator _ _).trans
      (congrArg (· ++ Text.fields '/' t.toList) (Text.fields_of_not_mem hs))
  have hlists := congrArg (fun s : String => Text.fields '/' s.toList) heq
  simp only [hfields _ _ hname, hfields _ _ hother] at hlists
  exact String.toList_injective (List.cons.inj hlists).1

/-- What stands in front of the names that lead on from a path. -/
def Path.lead (path : Path) : String :=
  if path.parts = [] then Path.anchorText path.anchor else
    Path.anchorText path.anchor ++ (slashed path.parts ++ "/")

theorem Path.text_extend (path : Path) {names : List String} (hnames : names ≠ []) :
    (path.extend names).text = path.lead ++ slashed names := by
  have htext : (path.extend names).text =
      Path.anchorText path.anchor ++ slashed (path.parts ++ names) := by
    rw [text.eq_def, extend]
    split
    next hparts => exact absurd (List.append_eq_nil_iff.mp hparts).2 hnames
    next => rfl
  rw [htext, lead]
  by_cases hparts : path.parts = []
  · rw [if_pos hparts, hparts, List.nil_append]
  · rw [if_neg hparts, slashed_append hparts hnames]
    simp only [String.append_assoc]

/-! ## Asking for what is listed -/

namespace Tree

variable {entries others : List (String × Tree)} {way : List String}

theorem Same.mem_asked_iff (hsame : Same (directory entries) (directory others)) :
    way ∈ (directory entries).asked ↔ way ∈ (directory others).asked := by
  have hkind (tree : Tree) : tree.below? way ≠ none ↔ tree.kindAt? way ≠ none := by
    rw [kindAt?, ne_eq, ne_eq, Option.map_eq_none_iff]
  rw [Tree.mem_asked_iff, Tree.mem_asked_iff, IsShallow, IsShallow, hkind, hkind, hsame]

theorem follow_singleton_eq_tooLong_iff {above : List Tree} {name : String} :
    follow above (directory entries) [name] = .error .tooLong ↔
      longestName < name.utf8ByteSize := by
  by_cases hup : name = ".."
  · subst name
    have hshort : ¬ longestName < "..".utf8ByteSize := by decide
    cases above with
    | nil => simp [follow, hshort]
    | cons parent higher => simp [follow, hshort]
  · rw [follow_name hup]
    split
    next hlong => simp [hlong]
    next hshort =>
      cases entries.lookup name with
      | none => simp [hshort]
      | some next => simp [follow, hshort]

/-- Only a name can be too long on the way to what is listed.  Two dots as a name lead to a
directory, too. -/
theorem Stands.follow_eq_tooLong_iff {root : Tree} {place : List String} {above : List Tree}
    (hstands : Stands root place above (directory entries))
    (hasked : way ∈ (directory entries).asked) :
    follow above (directory entries) way = .error .tooLong ↔
      ∃ name ∈ way, longestName < name.utf8ByteSize := by
  obtain ⟨hne, hlength, hbelow⟩ := Tree.mem_asked_iff.mp hasked
  match way with
  | [] => exact absurd rfl hne
  | [name] => simp [follow_singleton_eq_tooLong_iff]
  | [name, last] =>
    by_cases hup : name = ".."
    · subst name
      have hshort : ¬ longestName < "..".utf8ByteSize := by decide
      simp only [List.mem_cons, List.not_mem_nil, or_false, exists_eq_or_imp, exists_eq_left,
        hshort, false_or]
      cases hstands with
      | top => exact follow_singleton_eq_tooLong_iff
      | entry _ _ => exact follow_singleton_eq_tooLong_iff
    · obtain ⟨found, hfound⟩ := Option.ne_none_iff_exists'.mp hbelow
      obtain ⟨next, hnext, hlast⟩ := Option.bind_eq_some_iff.mp hfound
      cases next with
      | file content => cases hlast
      | directory inner =>
          rw [follow_name hup, hnext]
          split
          next hlong => simp [hlong]
          next hshort => simp [follow_singleton_eq_tooLong_iff, hshort]
  | _ :: _ :: _ :: _ => simp at hlength

/-- Whether what is listed has too long a path does not depend on the tree. -/
theorem find_extend_eq_tooLong_iff {tree : Tree} {place : Path}
    (hfind : tree.find place = .ok (directory entries))
    (hasked : way ∈ (directory entries).asked) :
    tree.find (place.extend way) = .error .tooLong ↔
      '\x00' ∉ (place.extend way).text.toList ∧
        (longestPath < (place.extend way).text.utf8ByteSize ∨
          ∃ name ∈ way, longestName < name.utf8ByteSize) := by
  obtain ⟨-, -, hfollow⟩ := find_eq_ok_iff.mp hfind
  obtain ⟨_, higher, hstands, happend⟩ := Stands.top.exists_of_follow hfollow
  have hway : follow [] (if (place.extend way).anchor = .relative then tree else empty)
      (place.extend way).parts = follow higher (directory entries) way := happend way
  rw [find, List.contains_eq_mem, hway]
  split
  next hzero => simp_all
  next hzero =>
    split
    next hlong => simp_all
    next hshort =>
      rw [hstands.follow_eq_tooLong_iff hasked]
      simp_all

end Tree

end Files

namespace Source

open Archive (Entry)

variable {s t : Tree} {name other : String}

/-! ## Directories -/

section

variable {root place : Path} {ending : Value} {entries others : List (String × Tree)}

theorem fileOf_of_kind_eq {x y : String × Tree} {above : List String} (hname : x.1 = y.1)
    (hkind : x.2.kind = y.2.kind)
    (hfault : faultAt? s place (above ++ [x.1]) = faultAt? t place (above ++ [x.1])) :
    fileOf s (place.extend above) ending x = fileOf t (place.extend above) ending y := by
  obtain ⟨name, x⟩ := x
  obtain ⟨_, y⟩ := y
  obtain rfl := hname
  rw [fileOf, fileOf, entryAt_extend, entryAt_extend, hfault]
  cases x with
  | file content =>
      obtain rfl := Tree.kind_eq_file_iff.mp hkind.symm
      rfl
  | directory entries =>
      obtain ⟨others, rfl⟩ := Tree.kind_eq_directory_iff.mp hkind.symm
      cases faultAt? t place (above ++ [name]) with
      | some failure => rfl
      | none => rfl

theorem filesOf_of_same {x y : String × Tree} (hname : x.1 = y.1) (hsame : Tree.Same x.2 y.2)
    (hfault : ∀ way ∈ Tree.askedIn x, faultAt? s place way = faultAt? t place way) :
    filesOf s place ending x = filesOf t place ending y := by
  obtain ⟨name, x⟩ := x
  obtain ⟨_, y⟩ := y
  obtain rfl := hname
  have hhead := hfault [name] (List.mem_cons_self ..)
  have hask := entryAt_extend s place [] (name, x)
  have haskOther := entryAt_extend t place [] (name, y)
  rw [Path.extend_nil, List.nil_append] at hask haskOther
  rw [filesOf, filesOf, hask, haskOther, hhead]
  cases hfault' : faultAt? t place [name] with
  | some failure => rfl
  | none =>
      cases x with
      | file content =>
          obtain rfl := Tree.kind_eq_file_iff.mp hsame.kind_eq.symm
          have hfile : fileOf s (place.extend []) ending (name, .file content) =
              fileOf t (place.extend []) ending (name, .file content) :=
            fileOf_of_kind_eq rfl rfl hhead
          rwa [Path.extend_nil] at hfile
      | directory entries =>
          obtain ⟨others, rfl⟩ := Tree.kind_eq_directory_iff.mp hsame.kind_eq.symm
          have hinner : (Tree.directory entries).sortedEntries.mapM
              (fileOf s (place.extend [name]) ending) =
                (Tree.directory others).sortedEntries.mapM
                  (fileOf t (place.extend [name]) ending) := by
            apply Results.mapM_eq_of_forall₂ hsame.sortedEntries
            rintro inner hmem outer ⟨hinner, hkinds⟩
            apply fileOf_of_kind_eq hinner hkinds.kind_eq
            exact hfault _ (List.mem_cons_of_mem _ (List.mem_map.mpr ⟨inner, hmem, rfl⟩))
          exact congrArg (Except.map List.flatten) hinner

/-- Directories that are the same list the same documents. -/
theorem listDirectory_eq_of_looksSame
    (hlook : Tree.LooksSame (s.look (root.join (.ofString name)))
      (t.look (root.join (.ofString name)))) (ending : Value) :
    listDirectory s root ending (.text name) = listDirectory t root ending (.text name) := by
  rw [listDirectory, listDirectory, Tree.directoryAt, Tree.directoryAt]
  generalize hs : s.look (root.join (.ofString name)) = first at hlook
  generalize ht : t.look (root.join (.ofString name)) = second at hlook
  cases hlook with
  | fault fault => rfl
  | nothing => rfl
  | @found x y hsame =>
      cases x with
      | file content =>
          obtain rfl := Tree.kind_eq_file_iff.mp hsame.kind_eq.symm
          rfl
      | directory entries =>
          obtain ⟨others, rfl⟩ := Tree.kind_eq_directory_iff.mp hsame.kind_eq.symm
          have hdocuments : directoryDocuments s (root.join (.ofString name)) ending
              (Tree.directory entries).sortedEntries =
                directoryDocuments t (root.join (.ofString name)) ending
                  (Tree.directory others).sortedEntries := by
            rw [directoryDocuments, directoryDocuments]
            apply congrArg (Except.map List.flatten)
            apply Results.mapM_eq_of_forall₂ hsame.sortedEntries
            rintro inner hmem outer ⟨hinner, hbelow⟩
            apply filesOf_of_same hinner hbelow
            intro way hway
            have hasked := List.mem_flatMap.mpr ⟨inner, hmem, hway⟩
            apply faultAt?_congr
            rw [Tree.find_extend_eq_tooLong_iff (Tree.find_of_look hs) hasked,
              Tree.find_extend_eq_tooLong_iff (Tree.find_of_look ht)
                (hsame.mem_asked_iff.mp hasked)]
          exact congrArg Logged.ofExcept hdocuments

theorem place_extend_name (root : Path) (hname : IsName name) :
    (root.extend [name]).place = root.place ++ [name] := by
  exact (Files.walk_append [] root.parts [name]).trans
    (Files.walk_of_straight (List.forall_mem_singleton.mpr hname.2.2.1) _)

/-- If the root does not go into the place of one name, neither does the path to the place of
another name. -/
theorem staysOff_extend_name (hname : IsName name) (hshort : name.utf8ByteSize ≤ Files.longestName)
    (hne : name ≠ other) (hroot : root.StaysOff (root.place ++ [other])) :
    (root.extend [name]).StaysOff (root.place ++ [other]) := by
  have hparts : (root.extend [name]).parts = root.parts ++ [name] := rfl
  constructor
  · intro part hpart
    rcases List.mem_append.mp hpart with hroot' | hlast
    · exact hroot.short part hroot'
    · rwa [List.mem_singleton.mp hlast]
  · intro n
    by_cases hn : n ≤ root.parts.length
    · rw [hparts, List.take_append_of_le_length hn]
      exact hroot.off n
    · have htake : (root.extend [name]).parts.take n = (root.extend [name]).parts := by
        apply List.take_of_length_le
        rw [hparts, List.length_append, List.length_singleton]
        omega
      rw [htake, ← Path.place_eq_walk, place_extend_name root hname]
      exact (List.append_nil (root.place ++ [name]) ▸ Tree.apart_of_ne hne []).1

end

/-! ## Archives -/

/-- Nothing but entries with a beginning tells the archives apart: under any other name they have
the same entries in the same order. -/
inductive SameEntries (beginning : String) :
    Except Failure (List Entry) → Except Failure (List Entry) → Prop where
  | failure (failure : Failure) : SameEntries beginning (.error failure) (.error failure)
  | entries {es fs : List Entry}
      (hsame : ∀ name, Text.beginsWith beginning name = false →
        (es.filter fun entry => entry.name = name) = fs.filter fun entry => entry.name = name) :
      SameEntries beginning (.ok es) (.ok fs)

theorem SameEntries.refl (beginning : String) (opened : Except Failure (List Entry)) :
    SameEntries beginning opened opened := by
  cases opened with
  | error failure => exact .failure failure
  | ok es => exact .entries fun _ _ => rfl

theorem SameEntries.symm {beginning : String} {first second : Except Failure (List Entry)}
    (hsame : SameEntries beginning first second) : SameEntries beginning second first := by
  cases hsame with
  | failure failure => exact .failure failure
  | entries hsame => exact .entries fun name hname => (hsame name hname).symm

theorem SameEntries.trans {beginning : String} {first second third : Except Failure (List Entry)}
    (hfirst : SameEntries beginning first second) (hsecond : SameEntries beginning second third) :
    SameEntries beginning first third := by
  cases hfirst with
  | failure failure => exact hsecond
  | entries hfirst =>
      cases hsecond with
      | entries hsecond =>
          exact .entries fun name hname => (hfirst name hname).trans (hsecond name hname)

theorem beginsWith_iff {beginning text : String} :
    Text.beginsWith beginning text ↔ ∃ rest, text = beginning ++ rest := by
  rw [Text.beginsWith, List.isPrefixOf_iff_prefix]
  constructor
  · rintro ⟨rest, hrest⟩
    refine ⟨String.ofList rest, ?_⟩
    rw [← String.toList_inj, String.toList_append, String.toList_ofList, hrest]
  · rintro ⟨rest, rfl⟩
    rw [String.toList_append]
    exact List.prefix_append _ _

/-- No entry name begins with two different category names after the same base. -/
theorem beginsWith_entryBeginning_eq_false (hname : IsName name) (hother : IsName other)
    (hne : name ≠ other) {base text : String}
    (hbegins : Text.beginsWith (entryBeginning base name) text) :
    Text.beginsWith (entryBeginning base other) text = false := by
  rw [Bool.eq_false_iff]
  intro hbeginsOther
  obtain ⟨x, rfl⟩ := beginsWith_iff.mp hbegins
  obtain ⟨y, hy⟩ := beginsWith_iff.mp hbeginsOther
  simp only [Archive.entryBeginning_eq, String.append_assoc, String.append_right_inj] at hy
  exact hne (Files.eq_of_append_slash_eq hname.2.2.2.1 hother.2.2.2.1 hy)

theorem lookup_eq_getLast? (name : String) (es : List Entry) :
    Archive.lookup name es =
      ((es.filter fun entry => entry.name = name).getLast?).map (·.content) := by
  rw [Archive.lookup, ← List.head?_filter, List.filter_reverse, List.head?_reverse]

theorem entryContent_eq_of_filter_eq {es fs : List Entry}
    (hsame :
      (es.filter fun entry => entry.name = name) = fs.filter fun entry => entry.name = name) :
    entryContent es name = entryContent fs name := by
  rw [entryContent, entryContent, lookup_eq_getLast?, lookup_eq_getLast?, hsame]

theorem perm_namesUnder {beginning : String} {es fs : List Entry}
    (hsame : ∀ name, Text.beginsWith beginning name →
      (es.filter fun entry => entry.name = name) = fs.filter fun entry => entry.name = name) :
    (namesUnder beginning es).Perm (namesUnder beginning fs) := by
  have hcount (es : List Entry) (name : String) :
      (es.map (·.name)).count name = (es.filter fun entry => entry.name = name).length := by
    rw [List.count, List.countP_map, List.countP_eq_length_filter]
    rfl
  rw [List.perm_iff_count]
  intro name
  by_cases hbegins : Text.beginsWith beginning name
  · rw [namesUnder, namesUnder, List.count_filter hbegins, List.count_filter hbegins, hcount,
      hcount, hsame name hbegins]
  · have hnone (es : List Entry) : (namesUnder beginning es).count name = 0 := by
      rw [List.count_eq_zero, namesUnder, List.mem_filter]
      exact fun hmem => hbegins hmem.2
    rw [hnone, hnone]

theorem documentNames_eq_of_perm {beginning : String} {es fs : List Entry}
    (hperm : (namesUnder beginning es).Perm (namesUnder beginning fs)) (ending : Value) :
    documentNames beginning ending es = documentNames beginning ending fs := by
  by_cases htext : ∃ text, ending = .text text
  · obtain ⟨text, rfl⟩ := htext
    rw [documentNames_eq, documentNames_eq, documentEntries, documentEntries,
      Keyed.mergeSort_eq_of_perm (hperm.filter _)]
  · have hother (names : List String) : withEnding ending (names.map fun name => (name, name)) =
        if names.isEmpty then .ok [] else .error (.misuse (.ending ending.kind)) := by
      rw [withEnding.eq_def]
      split
      next text => exact absurd ⟨text, rfl⟩ htext
      next => rw [List.isEmpty_map]
    rw [documentNames, documentNames, hother, hother, hperm.isEmpty_eq]

theorem mem_of_withEnding {α : Type} {ending : Value} {named : List (String × α)} {kept : List α}
    (hkept : withEnding ending named = .ok kept) {a : α} (ha : a ∈ kept) :
    ∃ entry ∈ named, entry.2 = a := by
  rw [withEnding.eq_def] at hkept
  split at hkept
  next text =>
    cases hkept
    obtain ⟨entry, hentry, rfl⟩ := List.mem_map.mp ha
    exact ⟨entry, (List.mem_filter.mp hentry).1, rfl⟩
  next =>
    split at hkept
    · cases hkept
      cases ha
    · cases hkept

theorem beginsWith_of_mem_documentNames {beginning : String} {ending : Value} {es : List Entry}
    {names : List String} (hnames : documentNames beginning ending es = .ok names) {name : String}
    (hname : name ∈ names) : Text.beginsWith beginning name := by
  obtain ⟨kept, hkept, rfl⟩ := Results.map_eq_ok_iff.mp hnames
  obtain ⟨entry, hentry, rfl⟩ :=
    mem_of_withEnding hkept ((List.mergeSort_perm kept _).mem_iff.mp hname)
  obtain ⟨listed, hlisted, rfl⟩ := List.mem_map.mp hentry
  exact (List.mem_filter.mp hlisted).2

theorem archiveDocuments_eq_of_filter_eq {beginning : String} {es fs : List Entry}
    (hsame : ∀ name, Text.beginsWith beginning name →
      (es.filter fun entry => entry.name = name) = fs.filter fun entry => entry.name = name)
    (path : Path) (ending : Value) :
    archiveDocuments path beginning ending es = archiveDocuments path beginning ending fs := by
  rw [archiveDocuments, archiveDocuments, documentNames_eq_of_perm (perm_namesUnder hsame)]
  cases hnames : documentNames beginning ending fs with
  | error failure => rfl
  | ok names =>
      apply congrArg Except.ok
      apply List.map_congr_left
      intro name hname
      have hbegins := beginsWith_of_mem_documentNames hnames hname
      rw [entryContent_eq_of_filter_eq (hsame name hbegins)]

theorem listArchive_eq_of_sameEntries (hname : IsName name) (hother : IsName other)
    (hne : name ≠ other) {path : Path} {base : String}
    (hsame : SameEntries (entryBeginning base other) (openArchive s path) (openArchive t path))
    (ending : Value) :
    listArchive s path base ending (.text name) = listArchive t path base ending (.text name) := by
  have htext : Value.toText (.text name) = name := rfl
  simp only [listArchive, htext]
  generalize openArchive s path = first at hsame
  generalize openArchive t path = second at hsame
  cases hsame with
  | failure failure => rfl
  | entries hsame =>
      have hdocuments := archiveDocuments_eq_of_filter_eq (fun text hbegins =>
        hsame text (beginsWith_entryBeginning_eq_false hname hother hne hbegins)) path ending
      simp only [Logged.ofExcept_ok_bind, hdocuments]

/-! ## Sources -/

/-- Nothing but what is filed under a name tells the files apart for the source. -/
def SameOutside (source : Source) (name : String) (s t : Tree) : Prop :=
  match source with
  | directory root _ => Tree.SameOutside (root.place ++ [name]) s t
  | archive path base _ =>
    SameEntries (entryBeginning base name) (openArchive s path) (openArchive t path)
  | memory _ => True

/-- The way to the root of a directory does not go into what is filed under the name. -/
def StaysOff (source : Source) (name : String) : Prop :=
  match source with
  | directory root _ => root.StaysOff (root.place ++ [name])
  | archive .. | memory _ => True

theorem SameOutside.refl (source : Source) (name : String) (s : Tree) :
    source.SameOutside name s s := by
  cases source with
  | directory root ending => exact Tree.SameOutside.refl _ _
  | archive path base ending => exact SameEntries.refl _ _
  | memory documents => trivial

theorem SameOutside.symm {source : Source} (hsame : source.SameOutside name s t) :
    source.SameOutside name t s := by
  cases source with
  | directory root ending => exact Tree.SameOutside.symm hsame
  | archive path base ending => exact SameEntries.symm hsame
  | memory documents => trivial

theorem SameOutside.trans {source : Source} {u : Tree} (hfirst : source.SameOutside name s t)
    (hsecond : source.SameOutside name t u) : source.SameOutside name s u := by
  cases source with
  | directory root ending => exact Tree.SameOutside.trans hfirst hsecond
  | archive path base ending => exact SameEntries.trans hfirst hsecond
  | memory documents => trivial

/-- What a source lists under one name depends on nothing that is filed under another. -/
theorem SameOutside.list_eq {source : Source} (hsame : source.SameOutside other s t)
    (hname : IsName name) (hshort : name.utf8ByteSize ≤ Files.longestName) (hother : IsName other)
    (hne : name ≠ other) (hroot : source.StaysOff other) :
    source.list s (.text name) = source.list t (.text name) := by
  cases source with
  | directory root ending =>
      apply listDirectory_eq_of_looksSame
      rw [join_name root hname]
      exact Tree.SameOutside.looksSame hsame hne (place_extend_name root hname)
        (staysOff_extend_name hname hshort hne hroot)
  | archive path base ending => exact listArchive_eq_of_sameEntries hname hother hne hsame ending
  | memory documents => rfl

/-! ## Probing -/

theorem isArchiveAt_of_file {path : Path} {content : List UInt8}
    (hfind : s.find path = .ok (.file content)) :
    isArchiveAt s path = (Archive.isArchive content).mapError .archive := by
  rw [isArchiveAt, Tree.look, hfind]
  rfl

theorem isArchiveAt_of_tooLong {path : Path} (hfind : s.find path = .error .tooLong) :
    isArchiveAt s path = .error (.file (.nameTooLong path.text)) := by
  rw [isArchiveAt, Tree.look, hfind]
  rfl

theorem isArchiveAt_of_no_file {path : Path} (hshort : s.find path ≠ .error .tooLong)
    (hnone : ∀ content, s.find path ≠ .ok (.file content)) : isArchiveAt s path = .ok false := by
  have hlook : s.look path = .ok (s.find path).toOption := Tree.look_eq_ok_iff.mpr ⟨hshort, rfl⟩
  rw [isArchiveAt, hlook]
  cases hfind : s.find path with
  | error absence => rfl
  | ok found =>
      cases found with
      | file content => exact absurd hfind (hnone content)
      | directory entries => rfl

/-- An archive is told by the file that it is. -/
theorem isArchiveAt_eq_of_file_iff {path : Path}
    (hlong : s.find path = .error .tooLong ↔ t.find path = .error .tooLong)
    (hfile : ∀ content, s.find path = .ok (.file content) ↔ t.find path = .ok (.file content)) :
    isArchiveAt s path = isArchiveAt t path := by
  by_cases htooLong : s.find path = .error .tooLong
  · rw [isArchiveAt_of_tooLong htooLong, isArchiveAt_of_tooLong (hlong.mp htooLong)]
  · by_cases hexists : ∃ content, s.find path = .ok (.file content)
    · obtain ⟨content, hcontent⟩ := hexists
      rw [isArchiveAt_of_file hcontent, isArchiveAt_of_file ((hfile content).mp hcontent)]
    · have hnone (content : List UInt8) : s.find path ≠ .ok (.file content) := fun hcontent =>
        hexists ⟨content, hcontent⟩
      rw [isArchiveAt_of_no_file htooLong hnone,
        isArchiveAt_of_no_file (fun ht => htooLong (hlong.mpr ht))
          fun content ht => hnone content ((hfile content).mpr ht)]

theorem firstArchive_eq {candidates : List (Path × List String)}
    (hcandidates : ∀ candidate ∈ candidates,
      isArchiveAt s candidate.1 = isArchiveAt t candidate.1) :
    firstArchive s candidates = firstArchive t candidates := by
  induction candidates with
  | nil => rfl
  | cons candidate rest ih =>
      obtain ⟨hhead, hrest⟩ := List.forall_mem_cons.mp hcandidates
      rw [firstArchive, firstArchive, hhead, ih hrest]

/-- Probing a root that goes down only finds the same source in files that agree outside what is
filed there under one name. -/
theorem probe_eq_of_sameOutside {root : Path} (hdown : ∀ part ∈ root.parts, part ≠ "..")
    (hshort : ∀ part ∈ root.parts, part.utf8ByteSize ≤ Files.longestName)
    (hsame : Tree.SameOutside (root.place ++ [name]) s t) (archiveBase ending : Value) :
    probe s root archiveBase ending = probe t root archiveBase ending := by
  have habove : archiveAbove s root = archiveAbove t root := by
    apply firstArchive_eq
    intro candidate hcandidate
    obtain ⟨n, -, rfl⟩ := List.mem_map.mp hcandidate
    have hdown' : ∀ part ∈ root.parts.take n, part ≠ ".." :=
      fun part hpart => hdown part (List.mem_of_mem_take hpart)
    have hshort' : ∀ part ∈ root.parts.take n, part.utf8ByteSize ≤ Files.longestName :=
      fun part hpart => hshort part (List.mem_of_mem_take hpart)
    have hoff := (Path.staysOff_of_down hdown hshort name).off n
    rw [Files.walk_of_straight hdown', List.nil_append] at hoff
    apply isArchiveAt_eq_of_file_iff
    · rw [Tree.find_eq_tooLong_iff hshort', Tree.find_eq_tooLong_iff hshort']
    · exact hsame.find_file_iff hdown' hshort' hoff
  rw [probe, probe, habove]

/-! ## The names of documents -/

theorem name_of_mem_fileOf {place : Path} (above : List String) {ending : Value}
    {entry : String × Tree} {documents : List Resource}
    (hfile : fileOf s (place.extend above) ending entry = .ok documents) {document : Resource}
    (hmem : document ∈ documents) :
    document.name = (place.extend (above ++ [entry.1])).text := by
  obtain ⟨tree, -, hdocuments⟩ := Results.bind_eq_ok_iff.mp hfile
  cases tree with
  | file content =>
      obtain ⟨found, hfound, rfl⟩ := mem_of_withEnding hdocuments hmem
      rw [List.mem_singleton.mp hfound, Path.child_extend]
  | directory entries =>
      cases hdocuments
      cases hmem

theorem exists_way_of_mem_filesOf {place : Path} {ending : Value} {entry : String × Tree}
    {documents : List Resource} (hfiles : filesOf s place ending entry = .ok documents)
    {document : Resource} (hmem : document ∈ documents) :
    ∃ way, way ≠ [] ∧ document.name = (place.extend way).text := by
  obtain ⟨tree, -, hdocuments⟩ := Results.bind_eq_ok_iff.mp hfiles
  cases tree with
  | file content =>
      rw [← Path.extend_nil place] at hdocuments
      exact ⟨[entry.1], List.cons_ne_nil _ _, name_of_mem_fileOf [] hdocuments hmem⟩
  | directory inner =>
      obtain ⟨listed, hlisted, hflatten⟩ := Results.bind_eq_ok_iff.mp hdocuments
      cases hflatten
      obtain ⟨found, hfound, hdocument⟩ := List.mem_flatten.mp hmem
      obtain ⟨last, -, hlast⟩ :=
        Results.exists_left_of_mem (Results.mapM_eq_ok_iff.mp hlisted) hfound
      exact ⟨[entry.1, last.1], List.cons_ne_nil _ _,
        name_of_mem_fileOf [entry.1] hlast hdocument⟩

theorem exists_name_of_mem_listDirectory {root : Path} {ending : Value} (hname : IsName name)
    {documents : List Resource}
    (hlist : (listDirectory s root ending (.text name)).result = .ok documents)
    {document : Resource} (hmem : document ∈ documents) :
    ∃ rest, document.name = root.lead ++ (name ++ ("/" ++ rest)) := by
  rw [listDirectory, join_name root hname] at hlist
  cases hentries : (s.directoryAt (root.extend [name])).mapError Failure.file with
  | error failure =>
      simp only [hentries] at hlist
      cases hlist
  | ok found =>
      simp only [hentries] at hlist
      cases found with
      | none =>
          obtain rfl : [] = documents := Except.ok.inj hlist
          cases hmem
      | some entries =>
          change directoryDocuments s _ ending entries = _ at hlist
          obtain ⟨listed, hlisted, rfl⟩ := Results.map_eq_ok_iff.mp hlist
          obtain ⟨found, hfound, hdocument⟩ := List.mem_flatten.mp hmem
          obtain ⟨entry, -, hentry⟩ :=
            Results.exists_left_of_mem (Results.mapM_eq_ok_iff.mp hlisted) hfound
          obtain ⟨way, hway, htext⟩ := exists_way_of_mem_filesOf hentry hdocument
          have hextend : (root.extend [name]).extend way = root.extend (name :: way) :=
            congrArg (Files.Path.mk root.anchor) (List.append_assoc root.parts [name] way)
          refine ⟨Files.slashed way, ?_⟩
          rw [htext, hextend, Path.text_extend root (List.cons_ne_nil _ _),
            Files.slashed_cons hway, String.append_assoc]

theorem exists_name_of_mem_listArchive {path : Path} {base : String} {ending : Value}
    {documents : List Resource}
    (hlist : (listArchive s path base ending (.text name)).result = .ok documents)
    {document : Resource} (hmem : document ∈ documents) :
    ∃ rest, document.name =
      path.text ++ "!/" ++ Archive.baseBeginning base ++ (name ++ ("/" ++ rest)) := by
  have htext : Value.toText (.text name) = name := rfl
  simp only [listArchive, htext] at hlist
  cases hentries : openArchive s path with
  | error failure =>
      simp only [hentries] at hlist
      cases hlist
  | ok entries =>
      rw [hentries, Logged.ofExcept_ok_bind] at hlist
      cases hdocuments : archiveDocuments path (entryBeginning base name) ending entries with
      | error failure =>
          rw [hdocuments] at hlist
          cases hlist
      | ok listed =>
          rw [hdocuments, Logged.ofExcept_ok_bind] at hlist
          have hlisted : listed = documents := by
            split at hlist
            · exact Except.ok.inj hlist
            · exact Except.ok.inj hlist
          subst hlisted
          obtain ⟨names, hnames, hmap⟩ := Results.bind_eq_ok_iff.mp hdocuments
          obtain rfl := Except.ok.inj hmap
          obtain ⟨text, htextMem, rfl⟩ := List.mem_map.mp hmem
          obtain ⟨rest, rfl⟩ := beginsWith_iff.mp (beginsWith_of_mem_documentNames hnames htextMem)
          refine ⟨rest, ?_⟩
          simp only [placeInArchive, Archive.entryBeginning_eq, String.append_assoc]

/-- No document of a directory or an archive is listed under two names. -/
theorem name_ne_of_mem_list {source : Source} (hfiled : ∀ documents, source ≠ .memory documents)
    (hname : IsName name) (hother : IsName other) (hne : name ≠ other)
    {documents others : List Resource}
    (hdocuments : (source.list s (.text name)).result = .ok documents)
    (hothers : (source.list s (.text other)).result = .ok others) :
    ∀ first ∈ documents, ∀ second ∈ others, first.name ≠ second.name := by
  intro first hfirst second hsecond heq
  have hnames (lead x y : String) :
      lead ++ (name ++ ("/" ++ x)) ≠ lead ++ (other ++ ("/" ++ y)) := by
    rw [ne_eq, String.append_right_inj]
    exact fun h => hne (Files.eq_of_append_slash_eq hname.2.2.2.1 hother.2.2.2.1 h)
  cases source with
  | directory root ending =>
      obtain ⟨x, hx⟩ := exists_name_of_mem_listDirectory hname hdocuments hfirst
      obtain ⟨y, hy⟩ := exists_name_of_mem_listDirectory hother hothers hsecond
      exact hnames root.lead x y (hx ▸ hy ▸ heq)
  | archive path base ending =>
      obtain ⟨x, hx⟩ := exists_name_of_mem_listArchive hdocuments hfirst
      obtain ⟨y, hy⟩ := exists_name_of_mem_listArchive hothers hsecond
      exact hnames _ x y (hx ▸ hy ▸ heq)
  | memory documents => exact hfiled documents rfl

end Source

end SqlFixtures
