import SqlFixtures.Proofs.Dialect.Names
import Mathlib.Tactic

/-!
# Joining lists of database type names

A list of names is an ordered set that is written with commas.  Two lists that are joined by a comma
name what the first one names and then what only the second one names.  The sets that can be written
are those of non-empty names without commas and without blanks around them, and such a set is read
back from its names joined by commas.
-/

namespace SqlFixtures

namespace Dialect

section

variable {α : Type} [BEq α] [LawfulBEq α]

theorem eraseDups_filter (keeps : α → Bool) (as : List α) :
    (as.filter keeps).eraseDups = as.eraseDups.filter keeps := by
  cases as with
  | nil => rfl
  | cons a as =>
      have ih := eraseDups_filter keeps (as.filter fun b => !b == a)
      rw [List.eraseDups_cons, List.filter_cons, List.filter_cons, ← ih, List.filter_filter]
      by_cases ha : keeps a
      · rw [if_pos ha, if_pos ha, List.eraseDups_cons, List.filter_filter]
        simp only [Bool.and_comm]
      · rw [if_neg ha, if_neg ha]
        -- what is equal to `a` is not kept anyway
        have hsame : (as.filter fun b => keeps b && !b == a) = as.filter keeps := by
          apply List.filter_congr
          intro b _
          by_cases hb : b = a
          · simp [hb, ha]
          · simp [hb]
        rw [hsame]
termination_by as.length
decreasing_by
  have hlength := List.length_filter_le (fun b => !b == a) as
  simp only [List.length_cons]
  omega

theorem eraseDups_append_eq (as bs : List α) :
    (as ++ bs).eraseDups = as.eraseDups ++ bs.eraseDups.filter fun b => !as.elem b := by
  rw [List.eraseDups_append, List.removeAll, eraseDups_filter]

theorem eraseDups_of_nodup {as : List α} (hnodup : as.Nodup) : as.eraseDups = as := by
  induction as with
  | nil => rfl
  | cons a as ih =>
      obtain ⟨hnew, hrest⟩ := List.nodup_cons.mp hnodup
      have hkept : (as.filter fun b => !b == a) = as := by
        rw [List.filter_eq_self]
        intro b hb
        have hne : b ≠ a := fun heq => hnew (heq ▸ hb)
        simpa using hne
      rw [List.eraseDups_cons, hkept, ih hrest]

end

/-! ## Splitting a joined text -/

/-- The names in a text, each as often as it stands there. -/
def parts (raw : List Char) : List (List Char) :=
  ((Text.fields ',' raw).map Text.stripChars).filter (!·.isEmpty)

theorem splitNames_eq (raw : String) :
    splitNames raw = (parts raw.toList).eraseDups.map String.ofList := rfl

theorem parts_append_comma (s t : List Char) : parts (s ++ ',' :: t) = parts s ++ parts t := by
  rw [parts, Text.fields_append_separator, List.map_append, List.filter_append]
  rfl

theorem ofList_mem_splitNames_iff {raw : String} {part : List Char} :
    String.ofList part ∈ splitNames raw ↔ part ∈ parts raw.toList := by
  rw [splitNames_eq, List.mem_map_of_injective (fun _ _ => String.ofList_injective),
    List.mem_eraseDups]

theorem splitNames_append_comma (a b : String) :
    splitNames (a ++ "," ++ b) =
      splitNames a ++ (splitNames b).filter fun name => name ∉ splitNames a := by
  have htext : (a ++ "," ++ b).toList = a.toList ++ ',' :: b.toList := by
    simp [String.toList_append]
  have hnew : (fun part => !(parts a.toList).elem part) =
      (fun name => decide (name ∉ splitNames a)) ∘ String.ofList := by
    funext part
    simp [ofList_mem_splitNames_iff]
  rw [splitNames_eq, htext, parts_append_comma, eraseDups_append_eq, List.map_append, hnew,
    splitNames_eq b, List.filter_map]
  rfl

/-! ## The names that are found -/

/-- What a list of names can stand for: different names that are not empty, hold no comma and have
no blanks around them. -/
structure IsNameSet (names : List String) : Prop where
  nodup : names.Nodup
  ne_empty : ∀ name ∈ names, name ≠ ""
  comma_not_mem : ∀ name ∈ names, ',' ∉ name.toList
  strip_eq : ∀ name ∈ names, Text.strip name = name

theorem exists_field_of_mem_splitNames {raw name : String} (hname : name ∈ splitNames raw) :
    ∃ field ∈ Text.fields ',' raw.toList,
      name.toList = Text.stripChars field ∧ Text.stripChars field ≠ [] := by
  obtain ⟨part, hpart, rfl⟩ := List.mem_map.mp hname
  obtain ⟨hstripped, hnonempty⟩ := List.mem_filter.mp (List.mem_eraseDups.mp hpart)
  obtain ⟨field, hfield, rfl⟩ := List.mem_map.mp hstripped
  exact ⟨field, hfield, String.toList_ofList, by simpa using hnonempty⟩

theorem isNameSet_splitNames (raw : String) : IsNameSet (splitNames raw) where
  nodup := nodup_names (some raw)
  ne_empty := by
    intro name hname hempty
    obtain ⟨field, -, htext, hnonempty⟩ := exists_field_of_mem_splitNames hname
    rw [hempty] at htext
    exact hnonempty htext.symm
  comma_not_mem := by
    intro name hname hcomma
    obtain ⟨field, hfield, htext, -⟩ := exists_field_of_mem_splitNames hname
    rw [htext] at hcomma
    exact Text.not_mem_of_mem_fields hfield (Text.mem_of_mem_trim hcomma)
  strip_eq := by
    intro name hname
    obtain ⟨field, -, htext, -⟩ := exists_field_of_mem_splitNames hname
    rw [Text.strip, htext, Text.stripChars, Text.stripChars, Text.trim_trim, ← Text.stripChars,
      ← htext, String.ofList_toList]

theorem isNameSet_names (list : Option String) : IsNameSet (names list) := by
  cases list with
  | none => constructor <;> simp [names]
  | some raw => exact isNameSet_splitNames raw

theorem parts_intercalate {names : List String} (hne : names ≠ []) (hset : IsNameSet names) :
    parts (",".intercalate names).toList = names.map String.toList := by
  have hfields : Text.fields ',' (",".intercalate names).toList = names.map String.toList := by
    rw [String.toList_intercalate]
    apply Text.fields_intercalate
    · simpa using hne
    · intro part hpart
      obtain ⟨name, hname, rfl⟩ := List.mem_map.mp hpart
      exact hset.comma_not_mem name hname
  have hstripped : (names.map String.toList).map Text.stripChars = names.map String.toList := by
    rw [List.map_map]
    apply List.map_congr_left
    intro name hname
    have hstrip := congrArg String.toList (hset.strip_eq name hname)
    rwa [Text.strip, String.toList_ofList] at hstrip
  rw [parts, hfields, hstripped, List.filter_eq_self]
  intro part hpart
  obtain ⟨name, hname, rfl⟩ := List.mem_map.mp hpart
  simpa using hset.ne_empty name hname

theorem splitNames_intercalate {names : List String} (hset : IsNameSet names) :
    splitNames (",".intercalate names) = names := by
  by_cases hne : names = []
  · subst names
    rfl
  · have hnodup : (names.map String.toList).Nodup :=
      hset.nodup.map fun _ _ heq => String.toList_injective heq
    rw [splitNames_eq, parts_intercalate hne hset, eraseDups_of_nodup hnodup, List.map_map]
    simp

/-- Lists of names are ordered sets.  Two lists that are joined by a comma name what the first one
names and then what only the second one names.  The sets that lists stand for are exactly those
that are read back from their names joined by commas, so splitting the names that were found, when
they are joined again, finds the same names. -/
theorem lists_are_ordered_sets :
    (∀ a b : String, names (some (a ++ "," ++ b)) =
      names (some a) ++ (names (some b)).filter fun name => name ∉ names (some a)) ∧
    (∀ list : Option String, IsNameSet (names list)) ∧
    (∀ found : List String, IsNameSet found ↔ names (some (",".intercalate found)) = found) ∧
    ∀ list : Option String, names (some (",".intercalate (names list))) = names list := by
  refine ⟨splitNames_append_comma, isNameSet_names, ?_, ?_⟩
  · intro found
    constructor
    · exact splitNames_intercalate
    · intro hback
      rw [← hback]
      exact isNameSet_names _
  · intro list
    exact splitNames_intercalate (isNameSet_names list)

example : names (some "H2, MySQL\u00a0,,MySQL,Oracle") = ["H2", "MySQL", "Oracle"] := by decide

end Dialect

end SqlFixtures
