import SqlFixtures.Files.Path
import SqlFixtures.Proofs.Text.Fields
import Mathlib.Tactic

/-!
# Ordinary names

The entries of a directory have ordinary names: a slash separates names, one or two dots stand for
directories that are there anyway, and there is nothing after a zero.  A path of ordinary names can
be written with slashes and read back, so that being below another path is seen in the text.
-/

namespace SqlFixtures.Files

/-- A name that an entry of a directory can have. -/
def IsName (name : String) : Prop :=
  name ≠ "" ∧ name ≠ "." ∧ name ≠ ".." ∧ '/' ∉ name.toList ∧ '\x00' ∉ name.toList

instance (name : String) : Decidable (IsName name) :=
  inferInstanceAs (Decidable (_ ∧ _ ∧ _ ∧ _ ∧ _))

/-- What can stand between the slashes of a path. -/
def IsPart (name : String) : Prop := name ≠ "" ∧ name ≠ "." ∧ '/' ∉ name.toList

instance (name : String) : Decidable (IsPart name) :=
  inferInstanceAs (Decidable (_ ∧ _ ∧ _))

theorem IsName.isPart {name : String} (hname : IsName name) : IsPart name :=
  ⟨hname.1, hname.2.1, hname.2.2.2.1⟩

theorem isName_replicate {c : Char} (hdot : c ≠ '.') (hslash : c ≠ '/') (hzero : c ≠ '\x00')
    (n : Nat) : IsName (String.ofList (List.replicate (n + 1) c)) := by
  have hchars : (String.ofList (List.replicate (n + 1) c)).toList = c :: List.replicate n c := by
    rw [String.toList_ofList, List.replicate_succ]
  refine ⟨?_, ?_, ?_, ?_, ?_⟩
  · intro heq
    rw [heq] at hchars
    cases hchars
  · intro heq
    rw [heq] at hchars
    exact hdot (List.cons.inj hchars).1.symm
  · intro heq
    rw [heq] at hchars
    exact hdot (List.cons.inj hchars).1.symm
  · rw [hchars]
    simp [hslash.symm]
  · rw [hchars]
    simp [hzero.symm]

def slashed (names : List String) : String := String.intercalate "/" names

@[simp] theorem slashed_singleton (name : String) : slashed [name] = name :=
  String.intercalate_singleton

theorem slashed_append {first second : List String} (hfirst : first ≠ []) (hsecond : second ≠ []) :
    slashed (first ++ second) = slashed first ++ "/" ++ slashed second :=
  String.intercalate_append_of_ne_nil hfirst hsecond

theorem fields_slashed {names : List String} (hnonempty : names ≠ [])
    (hnames : ∀ name ∈ names, IsPart name) :
    Text.fields '/' (slashed names).toList = names.map String.toList := by
  rw [slashed, String.toList_intercalate]
  apply Text.fields_intercalate
  · simpa using hnonempty
  · intro part hpart
    obtain ⟨name, hname, rfl⟩ := List.mem_map.mp hpart
    exact (hnames name hname).2.2

theorem toList_ne_nil {name : String} (hempty : name ≠ "") : name.toList ≠ [] :=
  mt String.toList_eq_nil_iff.mp hempty

theorem slashed_cons {name : String} {rest : List String} (hrest : rest ≠ []) :
    slashed (name :: rest) = name ++ "/" ++ slashed rest :=
  String.intercalate_cons_of_ne_nil hrest

theorem getLast?_slashed {names : List String} (hnames : ∀ name ∈ names, IsPart name) :
    (slashed names).toList.getLast? ≠ some '/' := by
  rcases List.eq_nil_or_concat' names with rfl | ⟨above, name, rfl⟩
  · simp [slashed]
  · obtain ⟨hempty, -, hslash⟩ := hnames name (List.mem_append_right _ (List.mem_singleton_self _))
    have hends : ∃ front, (slashed (above ++ [name])).toList = front ++ name.toList := by
      by_cases habove : above = []
      · subst above
        exact ⟨[], by simp⟩
      · refine ⟨(slashed above ++ "/").toList, ?_⟩
        rw [slashed_append habove (List.cons_ne_nil _ _), slashed_singleton, String.toList_append]
    obtain ⟨front, hfront⟩ := hends
    rw [hfront, List.getLast?_append_of_ne_nil _ (toList_ne_nil hempty)]
    exact fun hlast => hslash (List.mem_of_getLast? hlast)

theorem count_slash_slashed {names : List String} (hnonempty : names ≠ [])
    (hnames : ∀ name ∈ names, IsName name) :
    (slashed names).toList.count '/' + 1 = names.length := by
  induction names with
  | nil => exact absurd rfl hnonempty
  | cons name rest ih =>
      obtain ⟨hname, hothers⟩ := List.forall_mem_cons.mp hnames
      have hnone : name.toList.count '/' = 0 := List.count_eq_zero.mpr hname.2.2.2.1
      by_cases hrest : rest = []
      · subst rest
        simp [hnone]
      · have hcount := ih hrest hothers
        rw [slashed_cons hrest, String.toList_append, String.toList_append, List.count_append,
          List.count_append, hnone, List.length_cons, ← hcount]
        simp
        omega

theorem length_le_utf8ByteSize_slashed {names : List String}
    (hnames : ∀ name ∈ names, name ≠ "") : names.length ≤ (slashed names).utf8ByteSize := by
  induction names with
  | nil => exact Nat.zero_le _
  | cons name rest ih =>
      obtain ⟨hname, hothers⟩ := List.forall_mem_cons.mp hnames
      have hpositive : name.utf8ByteSize ≠ 0 := mt String.utf8ByteSize_eq_zero_iff.mp hname
      by_cases hrest : rest = []
      · subst rest
        rw [slashed_singleton, List.length_singleton]
        omega
      · have hlength := ih hothers
        rw [slashed_cons hrest, String.utf8ByteSize_append, String.utf8ByteSize_append,
          List.length_cons]
        omega

theorem mem_slashed_iff {c : Char} (hslash : c ≠ '/') {names : List String} :
    c ∈ (slashed names).toList ↔ ∃ name ∈ names, c ∈ name.toList := by
  induction names with
  | nil => simp [slashed]
  | cons name rest ih =>
      by_cases hrest : rest = []
      · subst rest
        simp
      · rw [slashed_cons hrest, String.toList_append, String.toList_append]
        simp [ih, hslash]

namespace Path

/-- The path that names lead to from a path. -/
def extend (path : Path) (names : List String) : Path := ⟨path.anchor, path.parts ++ names⟩

theorem extend_nil (path : Path) : path.extend [] = path := by
  rw [extend, List.append_nil]

theorem child_extend (path : Path) (names : List String) (name : String) :
    (path.extend names).child name = path.extend (names ++ [name]) := by
  rw [child, extend, extend, List.append_assoc]

theorem zero_mem_text_iff {path : Path} :
    '\x00' ∈ path.text.toList ↔ ∃ part ∈ path.parts, '\x00' ∈ part.toList := by
  obtain ⟨anchor, parts⟩ := path
  have hslashed : ∀ anchor, '\x00' ∈ (anchorText anchor ++ slashed parts).toList ↔
      ∃ part ∈ parts, '\x00' ∈ part.toList := by
    intro anchor
    rw [String.toList_append, List.mem_append, mem_slashed_iff (by decide)]
    cases anchor with
    | relative => simp [anchorText]
    | root => simp [anchorText]
    | doubleRoot => simp [anchorText]
  rw [text.eq_def]
  split
  next hanchor hparts =>
    subst hparts
    simp
  next => exact hslashed _

theorem zero_not_mem_text {path : Path} (hnames : ∀ part ∈ path.parts, IsName part) :
    '\x00' ∉ path.text.toList := by
  rw [zero_mem_text_iff]
  rintro ⟨part, hpart, hmem⟩
  exact (hnames part hpart).2.2.2.2 hmem

theorem utf8ByteSize_slashed_le_text (path : Path) :
    (slashed path.parts).utf8ByteSize ≤ path.text.utf8ByteSize := by
  rw [text.eq_def]
  split
  next hparts =>
    rw [hparts]
    decide
  next =>
    rw [String.utf8ByteSize_append]
    exact Nat.le_add_left _ _

theorem anchorOf_eq_relative {s : List Char} (hhead : s.head? ≠ some '/') :
    anchorOf s = .relative := by
  unfold anchorOf
  split
  · simp at hhead
  · simp at hhead
  · simp at hhead
  · rfl

theorem head?_slashed {names : List String} (hnames : ∀ name ∈ names, IsPart name) :
    (slashed names).toList.head? ≠ some '/' := by
  cases names with
  | nil => simp [slashed]
  | cons name rest =>
      obtain ⟨hempty, -, hslash⟩ := hnames name (List.mem_cons_self ..)
      obtain ⟨c, cs, hcs⟩ := List.exists_cons_of_ne_nil (toList_ne_nil hempty)
      have hc : c ≠ '/' := by
        rintro rfl
        rw [hcs] at hslash
        exact hslash (List.mem_cons_self ..)
      cases rest with
      | nil => simp [hcs, hc]
      | cons other rest => simp [slashed, hcs, hc]

theorem partsOf_slashed {names : List String} (hnames : ∀ name ∈ names, IsPart name) :
    partsOf (slashed names).toList = names := by
  by_cases hnonempty : names = []
  · subst names
    rfl
  · have hkept : ∀ part ∈ names.map String.toList, part ≠ [] ∧ part ≠ ['.'] := by
      intro part hpart
      obtain ⟨name, hname, rfl⟩ := List.mem_map.mp hpart
      obtain ⟨hempty, hdot, -⟩ := hnames name hname
      refine ⟨toList_ne_nil hempty, ?_⟩
      intro heq
      exact hdot (String.toList_inj.mp heq)
    rw [partsOf, fields_slashed hnonempty hnames, List.filter_eq_self.mpr (by simpa using hkept),
      List.map_map]
    simp

/-- A path of parts is read as written. -/
theorem ofString_slashed_of_isPart {names : List String} (hnames : ∀ name ∈ names, IsPart name) :
    ofString (slashed names) = ⟨.relative, names⟩ := by
  rw [ofString, anchorOf_eq_relative (head?_slashed hnames), partsOf_slashed hnames]

/-- A path of ordinary names is read as written. -/
theorem ofString_slashed {names : List String} (hnames : ∀ name ∈ names, IsName name) :
    ofString (slashed names) = ⟨.relative, names⟩ :=
  ofString_slashed_of_isPart fun name hname => (hnames name hname).isPart

theorem isPart_of_mem_ofString {s part : String} (hpart : part ∈ (ofString s).parts) :
    IsPart part := by
  obtain ⟨field, hfield, rfl⟩ := List.mem_map.mp hpart
  obtain ⟨hmem, hkept⟩ := List.mem_filter.mp hfield
  obtain ⟨hempty, hdot⟩ := of_decide_eq_true hkept
  have hfree : ∀ c ∈ field, c ≠ '/' :=
    (Text.forall_mem_fields_iff s.toList).mpr (fun c _ => em (c = '/')) field hmem
  refine ⟨?_, ?_, ?_⟩
  · rwa [ne_eq, ← String.toList_eq_nil_iff, String.toList_ofList]
  · rwa [ne_eq, ← String.toList_inj, String.toList_ofList]
  · rw [String.toList_ofList]
    exact fun hslash => hfree _ hslash rfl

end Path

theorem slashed_injective {first second : List String}
    (hfirst : ∀ name ∈ first, IsName name) (hsecond : ∀ name ∈ second, IsName name)
    (heq : slashed first = slashed second) : first = second := by
  rw [← Path.partsOf_slashed fun name hname => (hfirst name hname).isPart, heq,
    Path.partsOf_slashed fun name hname => (hsecond name hname).isPart]

/-! ## Below a path -/

theorem beginsWith_slashed_iff {above names : List String} (habove : above ≠ [])
    (hall : ∀ name ∈ above, IsName name) (hnames : ∀ name ∈ names, IsName name) :
    Text.beginsWith (slashed above ++ "/") (slashed names) ↔
      ∃ below, below ≠ [] ∧ names = above ++ below := by
  rw [Text.beginsWith, List.isPrefixOf_iff_prefix, String.toList_append]
  constructor
  · rintro ⟨rest, hrest⟩
    have hnonempty : names ≠ [] := by
      rintro rfl
      simp [slashed] at hrest
    have hfields : names.map String.toList =
        above.map String.toList ++ Text.fields '/' rest := by
      rw [← fields_slashed hnonempty fun name hname => (hnames name hname).isPart, ← hrest,
        List.append_assoc, ← fields_slashed habove fun name hname => (hall name hname).isPart]
      exact Text.fields_append_separator _ _
    obtain ⟨first, below, rfl, hfirst, hbelow⟩ := List.map_eq_append_iff.mp hfields
    have hsame : first = above :=
      List.map_injective_iff.mpr (fun _ _ => String.toList_injective) hfirst
    subst first
    refine ⟨below, ?_, rfl⟩
    rintro rfl
    exact Text.fields_ne_nil rest hbelow.symm
  · rintro ⟨below, hbelow, rfl⟩
    rw [slashed_append habove hbelow, String.toList_append, String.toList_append]
    exact List.prefix_append _ _

theorem endsWith_append_slash {ending : String} (hending : '/' ∉ ending.toList)
    (front name : String) :
    Text.endsWith ending (front ++ "/" ++ name) = Text.endsWith ending name := by
  rw [Bool.eq_iff_iff, Text.endsWith, Text.endsWith, List.isSuffixOf_iff_suffix,
    List.isSuffixOf_iff_suffix, String.toList_append, String.toList_append, List.append_assoc]
  exact Text.isSuffix_append_separator_iff hending

end SqlFixtures.Files
