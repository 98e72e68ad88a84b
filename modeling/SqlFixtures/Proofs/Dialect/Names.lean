import SqlFixtures.Dialect.Names
import SqlFixtures.Proofs.Text.Fields
import SqlFixtures.Proofs.Text.Trimming
import Mathlib.Tactic

/-!
# Laws of lists of database type names

The names in a list are pairwise different, however often the list repeats them.  A list names
nothing exactly if it holds nothing but commas and blanks.
-/

namespace SqlFixtures

namespace Dialect

theorem nodup_eraseDups {α : Type} [BEq α] [LawfulBEq α] (as : List α) : as.eraseDups.Nodup := by
  cases as with
  | nil => simp
  | cons a as =>
      rw [List.eraseDups_cons, List.nodup_cons]
      refine ⟨?_, nodup_eraseDups _⟩
      simp [List.mem_eraseDups]
termination_by as.length
decreasing_by
  have hlength := List.length_filter_le (fun b => !b == a) as
  simp only [List.length_cons]
  omega

theorem nodup_names (list : Option String) : (names list).Nodup := by
  cases list with
  | none => exact List.nodup_nil
  | some raw =>
      rw [names, splitNames]
      exact (nodup_eraseDups _).map fun first second heq => String.ofList_injective heq

/-- The list is absent, or holds nothing but commas and blanks. -/
def namesNothing (list : Option String) : Bool :=
  list.all fun raw => raw.toList.all fun c => c = ',' || Text.isBlank c

theorem names_eq_nil_iff (list : Option String) :
    names list = [] ↔ namesNothing list := by
  cases list with
  | none => simp [names, namesNothing]
  | some raw =>
      have hempty : splitNames raw = [] ↔
          ∀ field ∈ Text.fields ',' raw.toList, ∀ c ∈ field, Text.isBlank c := by
        simp only [← Text.trim_eq_nil_iff]
        rw [splitNames, List.map_eq_nil_iff]
        constructor
        · intro hdups field hfield
          by_contra hne
          have hmem : Text.stripChars field ∈
              (((Text.fields ',' raw.toList).map Text.stripChars).filter
                (!·.isEmpty)).eraseDups := by
            rw [List.mem_eraseDups, List.mem_filter]
            refine ⟨List.mem_map_of_mem hfield, ?_⟩
            rw [Text.stripChars]
            simpa using hne
          rw [hdups] at hmem
          cases hmem
        · intro hall
          have hnone : ((Text.fields ',' raw.toList).map Text.stripChars).filter
              (!·.isEmpty) = [] := by
            rw [List.filter_eq_nil_iff]
            intro stripped hmem
            obtain ⟨field, hfield, rfl⟩ := List.mem_map.mp hmem
            have hblank : Text.stripChars field = [] := hall field hfield
            simp [hblank]
          rw [hnone, List.eraseDups_nil]
      rw [names, hempty, Text.forall_mem_fields_iff]
      simp [namesNothing]

end Dialect

end SqlFixtures
