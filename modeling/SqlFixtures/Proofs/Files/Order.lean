import SqlFixtures.Proofs.Files.Names
import Mathlib.Tactic

/-!
# Two orders of paths

Paths can be compared name by name, or as texts with slashes.  A text is smaller than every text
that continues it, but below a directory it is the slash that continues the name, and some
characters come before the slash.  The two orders disagree on two paths exactly if one goes on below
a name that the other one continues with such a character.
-/

namespace SqlFixtures.Files

/-- The first path goes on below a name, in the place of which the second one has that name
continued with a character before the slash. -/
inductive Crosses : List String → List String → Prop where
  | here {name longer : String} {below others : List String} {c : Char} {rest : List Char}
      (hbelow : below ≠ []) (hlonger : longer.toList = name.toList ++ c :: rest) (hc : c < '/') :
      Crosses (name :: below) (longer :: others)
  | under {inner outer : List String} (name : String) (hrest : Crosses inner outer) :
      Crosses (name :: inner) (name :: outer)

/-! ## Comparing texts -/

theorem append_cons_lt_append_cons {c d : Char} (hlt : c < d) (common s t : List Char) :
    common ++ c :: s < common ++ d :: t :=
  List.append_left_lt (List.cons_lt_cons_iff.mpr (Or.inl hlt))

theorem lt_append_cons (s : List Char) (c : Char) (rest : List Char) : s < s ++ c :: rest := by
  have hlt : s ++ [] < s ++ c :: rest := List.append_left_lt (List.nil_lt_cons c rest)
  rwa [List.append_nil] at hlt

theorem lt_of_append_lt_append {common s t : List Char} (hlt : common ++ s < common ++ t) :
    s < t := by
  induction common with
  | nil => exact hlt
  | cons c common ih =>
      rcases List.cons_lt_cons_iff.mp hlt with hself | ⟨-, hrest⟩
      · exact absurd hself (Char.lt_irrefl c)
      · exact ih hrest

theorem append_lt_append_iff {front first second : String} :
    front ++ first < front ++ second ↔ first < second := by
  change (front ++ first).toList < (front ++ second).toList ↔ first.toList < second.toList
  rw [String.toList_append, String.toList_append]
  exact ⟨lt_of_append_lt_append, List.append_left_lt⟩

/-- A smaller text is continued by the greater one, or the two part at some place. -/
theorem lt_cases {s t : List Char} (hlt : s < t) :
    (∃ c rest, t = s ++ c :: rest) ∨
      ∃ common c d rest others, s = common ++ c :: rest ∧ t = common ++ d :: others ∧ c < d := by
  induction s generalizing t with
  | nil =>
      cases t with
      | nil => exact absurd hlt (List.not_lt_nil [])
      | cons d t => exact Or.inl ⟨d, t, rfl⟩
  | cons c s ih =>
      cases t with
      | nil => exact absurd hlt (List.not_lt_nil _)
      | cons d t =>
          rcases List.cons_lt_cons_iff.mp hlt with hhead | ⟨rfl, hrest⟩
          · exact Or.inr ⟨[], c, d, s, t, rfl, rfl, hhead⟩
          · rcases ih hrest with ⟨e, rest, rfl⟩ | ⟨common, e, f, rest, others, rfl, rfl, hpart⟩
            · exact Or.inl ⟨e, rest, rfl⟩
            · exact Or.inr ⟨c :: common, e, f, rest, others, rfl, rfl, hpart⟩

/-! ## Comparing paths -/

theorem toList_slashed_cons (name : String) {rest : List String} (hrest : rest ≠ []) :
    (slashed (name :: rest)).toList = name.toList ++ '/' :: (slashed rest).toList := by
  have hcons : slashed (name :: rest) = name ++ "/" ++ slashed rest :=
    String.intercalate_cons_of_ne_nil hrest
  rw [hcons, String.toList_append, String.toList_append, List.append_assoc]
  rfl

theorem exists_toList_slashed_cons (name : String) (rest : List String) :
    ∃ after, (slashed (name :: rest)).toList = name.toList ++ after := by
  by_cases hrest : rest = []
  · subst rest
    exact ⟨[], by rw [slashed_singleton, List.append_nil]⟩
  · exact ⟨_, toList_slashed_cons name hrest⟩

theorem Crosses.lt {inner outer : List String} (hcrosses : Crosses inner outer) :
    inner < outer := by
  induction hcrosses with
  | @here name longer _ _ c rest _ hlonger _ =>
      apply List.cons_lt_cons_iff.mpr
      left
      change name.toList < longer.toList
      rw [hlonger]
      exact lt_append_cons _ c rest
  | under name _ ih => exact List.cons_lt_cons_iff.mpr (Or.inr ⟨rfl, ih⟩)

theorem Crosses.ne_nil {inner outer : List String} (hcrosses : Crosses inner outer) :
    inner ≠ [] ∧ outer ≠ [] := by
  cases hcrosses with
  | here => simp
  | under => simp

theorem Crosses.slashed_lt {inner outer : List String} (hcrosses : Crosses inner outer) :
    slashed outer < slashed inner := by
  induction hcrosses with
  | @here name longer _ others c rest hbelow hlonger hc =>
      obtain ⟨after, hafter⟩ := exists_toList_slashed_cons longer others
      change (slashed (longer :: others)).toList < _
      rw [hafter, hlonger, toList_slashed_cons name hbelow, List.append_assoc]
      exact append_cons_lt_append_cons hc _ _ _
  | under name hrest ih =>
      change (slashed _).toList < (slashed _).toList
      rw [toList_slashed_cons name hrest.ne_nil.1, toList_slashed_cons name hrest.ne_nil.2]
      exact List.append_left_lt (List.cons_lt_cons_iff.mpr (Or.inr ⟨rfl, ih⟩))

theorem crosses_of_head_lt {name other : String} {inner outer : List String}
    (hother : IsName other) (hname : name < other)
    (htext : slashed (other :: outer) < slashed (name :: inner)) :
    Crosses (name :: inner) (other :: outer) := by
  obtain ⟨after, hafter⟩ := exists_toList_slashed_cons other outer
  change (slashed (other :: outer)).toList < (slashed (name :: inner)).toList at htext
  rw [hafter] at htext
  rcases lt_cases hname with ⟨c, rest, hlonger⟩ | hpart
  · by_cases hinner : inner = []
    · subst inner
      rw [slashed_singleton, hlonger, List.append_assoc] at htext
      exact absurd (lt_append_cons _ _ _) (List.lt_asymm htext)
    · rw [toList_slashed_cons name hinner, hlonger, List.append_assoc] at htext
      rcases List.cons_lt_cons_iff.mp (lt_of_append_lt_append htext) with hc | ⟨rfl, -⟩
      · exact Crosses.here hinner hlonger hc
      · have hslash := hother.2.2.2.1
        rw [hlonger] at hslash
        exact absurd (List.mem_append_right _ (List.mem_cons_self ..)) hslash
  · obtain ⟨common, c, d, rest, others, hfirst, hsecond, hcd⟩ := hpart
    obtain ⟨before, hbefore⟩ := exists_toList_slashed_cons name inner
    rw [hbefore, hfirst, hsecond, List.append_assoc, List.append_assoc] at htext
    exact absurd (append_cons_lt_append_cons hcd _ _ _) (List.lt_asymm htext)

theorem slashed_lt_of_cons_lt_cons {name : String} {inner outer : List String}
    (houter : outer ≠ []) (htext : slashed (name :: outer) < slashed (name :: inner)) :
    slashed outer < slashed inner := by
  change (slashed (name :: outer)).toList < (slashed (name :: inner)).toList at htext
  rw [toList_slashed_cons name houter] at htext
  by_cases hinner : inner = []
  · subst inner
    rw [slashed_singleton] at htext
    exact absurd (lt_append_cons _ _ _) (List.lt_asymm htext)
  · rw [toList_slashed_cons name hinner] at htext
    rcases List.cons_lt_cons_iff.mp (lt_of_append_lt_append htext) with hself | ⟨-, hrest⟩
    · exact absurd hself (Char.lt_irrefl _)
    · exact hrest

theorem crosses_of_lt_of_slashed_lt {inner outer : List String}
    (hnames : ∀ name ∈ outer, IsName name) (hlt : inner < outer)
    (htext : slashed outer < slashed inner) : Crosses inner outer := by
  induction inner generalizing outer with
  | nil => exact absurd htext (List.not_lt_nil _)
  | cons name inner ih =>
      cases outer with
      | nil => exact absurd hlt (List.not_lt_nil _)
      | cons other outer =>
          rcases List.cons_lt_cons_iff.mp hlt with hname | ⟨rfl, hrest⟩
          · exact crosses_of_head_lt (hnames other (List.mem_cons_self ..)) hname htext
          · have houter : outer ≠ [] := by
              rintro rfl
              exact List.not_lt_nil _ hrest
            have hrestNames : ∀ other ∈ outer, IsName other := fun other hother =>
              hnames other (List.mem_cons_of_mem _ hother)
            have hslashed := slashed_lt_of_cons_lt_cons houter htext
            exact Crosses.under name (ih hrestNames hrest hslashed)

/-- The two orders disagree exactly on paths that cross. -/
theorem crosses_iff {inner outer : List String} (hnames : ∀ name ∈ outer, IsName name) :
    Crosses inner outer ↔ inner < outer ∧ slashed outer < slashed inner :=
  ⟨fun hcrosses => ⟨hcrosses.lt, hcrosses.slashed_lt⟩,
    fun horders => crosses_of_lt_of_slashed_lt hnames horders.1 horders.2⟩

end SqlFixtures.Files
