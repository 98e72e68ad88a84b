import SqlFixtures.Text.Blank
import Mathlib.Data.List.TakeWhile
import Mathlib.Tactic

/-!
# Laws of trimming

Trimming drops characters of a class from both ends of a text and keeps the rest.  What is left
begins and ends with a character that is not dropped, which makes it the only text that can be left,
and trimming it once more changes nothing.
-/

namespace SqlFixtures.Text

variable {drops : Char → Bool} {s : List Char}

/-- Trimming leaves nothing exactly of a text whose characters are all dropped. -/
theorem trim_eq_nil_iff : trim drops s = [] ↔ ∀ c ∈ s, drops c := by
  rw [trim, List.reverse_eq_nil_iff, List.dropWhile_eq_nil_iff]
  simp only [List.mem_reverse]
  constructor
  · intro hrest c hmem
    rw [← List.takeWhile_append_dropWhile (p := drops) (l := s)] at hmem
    rcases List.mem_append.mp hmem with htaken | hdropped
    · exact List.mem_takeWhile_imp htaken
    · exact hrest c hdropped
  · intro hall c hmem
    exact hall c ((List.dropWhile_suffix drops).subset hmem)

theorem trim_eq_self (hhead : ∀ c ∈ s.head?, ¬ drops c) (hlast : ∀ c ∈ s.getLast?, ¬ drops c) :
    trim drops s = s := by
  have hfront (t : List Char) (ht : ∀ c ∈ t.head?, ¬ drops c) : t.dropWhile drops = t := by
    cases t with
    | nil => rfl
    | cons c rest => exact List.dropWhile_cons_of_neg (ht c rfl)
  have hback : s.reverse.dropWhile drops = s.reverse := by
    apply hfront
    rwa [List.head?_reverse]
  rw [trim, hfront s hhead, hback, List.reverse_reverse]

theorem trim_prefix_dropWhile (drops : Char → Bool) (s : List Char) :
    trim drops s <+: s.dropWhile drops := by
  rw [trim, ← List.reverse_suffix, List.reverse_reverse]
  exact List.dropWhile_suffix drops

theorem mem_of_mem_trim {c : Char} (hc : c ∈ trim drops s) : c ∈ s :=
  (List.dropWhile_suffix drops).subset ((trim_prefix_dropWhile drops s).subset hc)

theorem not_drops_of_mem_head?_dropWhile {c : Char} (hc : c ∈ (s.dropWhile drops).head?) :
    ¬ drops c := by
  have hkept := List.head?_dropWhile_not drops s
  rw [Option.mem_def] at hc
  rw [hc] at hkept
  simpa using hkept

/-- Dropping characters from both ends of `s` leaves `rest`. -/
structure TrimsTo (drops : Char → Bool) (s rest : List Char) : Prop where
  around : ∃ before after, s = before ++ (rest ++ after) ∧
    (∀ c ∈ before, drops c) ∧ ∀ c ∈ after, drops c
  head : ∀ c ∈ rest.head?, ¬ drops c
  last : ∀ c ∈ rest.getLast?, ¬ drops c

theorem trimsTo_trim (drops : Char → Bool) (s : List Char) : TrimsTo drops s (trim drops s) where
  around := by
    refine ⟨s.takeWhile drops, ((s.dropWhile drops).reverse.takeWhile drops).reverse, ?_, ?_, ?_⟩
    · rw [trim, ← List.reverse_append, List.takeWhile_append_dropWhile, List.reverse_reverse,
        List.takeWhile_append_dropWhile]
    · exact fun c hc => List.mem_takeWhile_imp hc
    · exact fun c hc => List.mem_takeWhile_imp (List.mem_reverse.mp hc)
  head := by
    intro c hc
    obtain ⟨rest, hrest⟩ := trim_prefix_dropWhile drops s
    apply not_drops_of_mem_head?_dropWhile (s := s)
    rw [← hrest]
    exact List.mem_head?_append_of_mem_head? hc
  last := by
    intro c hc
    rw [trim, List.getLast?_reverse] at hc
    exact not_drops_of_mem_head?_dropWhile hc

theorem trim_trim (drops : Char → Bool) (s : List Char) :
    trim drops (trim drops s) = trim drops s :=
  trim_eq_self (trimsTo_trim drops s).head (trimsTo_trim drops s).last

theorem trim_append_left {before : List Char} (hbefore : ∀ c ∈ before, drops c) :
    trim drops (before ++ s) = trim drops s := by
  rw [trim, List.dropWhile_append_of_pos hbefore, ← trim]

theorem trim_append_right {after : List Char} (hafter : ∀ c ∈ after, drops c) :
    trim drops (s ++ after) = trim drops s := by
  have hback : ∀ c ∈ after.reverse, drops c := fun c hc => hafter c (List.mem_reverse.mp hc)
  rw [trim, trim, List.dropWhile_append]
  split
  next hempty =>
    rw [List.isEmpty_iff.mp hempty, List.dropWhile_eq_nil_iff.mpr hafter]
  next hrest =>
    rw [List.reverse_append, List.dropWhile_append_of_pos hback]

theorem trim_eq_iff {rest : List Char} : trim drops s = rest ↔ TrimsTo drops s rest := by
  constructor
  · rintro rfl
    exact trimsTo_trim drops s
  · rintro ⟨⟨before, after, rfl, hbefore, hafter⟩, hhead, hlast⟩
    rw [trim_append_left hbefore, trim_append_right hafter, trim_eq_self hhead hlast]

/-! ## Blank characters -/

theorem strip_eq_iff {s rest : String} :
    strip s = rest ↔ TrimsTo isBlank s.toList rest.toList := by
  rw [← trim_eq_iff, ← stripChars, ← String.toList_inj, strip, String.toList_ofList]

theorem strip_eq_empty_iff {s : String} : strip s = "" ↔ ∀ c ∈ s.toList, isBlank c := by
  rw [← trim_eq_nil_iff, ← stripChars, ← String.toList_inj, strip, String.toList_ofList]
  rfl

theorem strip_strip (s : String) : strip (strip s) = strip s := by
  have htrim : stripChars (stripChars s.toList) = stripChars s.toList := trim_trim isBlank s.toList
  rw [strip, strip, String.toList_ofList, htrim]

end SqlFixtures.Text
