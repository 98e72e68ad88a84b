import SqlFixtures.Proofs.Template.Runs
import SqlFixtures.Proofs.Template.Variants
import Mathlib.Tactic

/-!
# Parity of runs

Read from the left, the percent signs of a run go together in pairs, and each pair is an escape.  A
run of even length leaves nothing over.  The last percent sign of an odd run makes a marker with an
`s` after the run and is stray otherwise.  So the parities of the runs decide the outcome of the
literal variant: the markers are counted first, and a stray percent sign matters only if there are
as many parameters as markers.
-/

namespace SqlFixtures.Template

/-- The block ends in a marker. -/
def Block.Marks (block : Block) : Prop := Odd block.percents ∧ block.next = 's'

/-- The last percent sign of the block is stray. -/
def Block.Strays (block : Block) : Prop := Odd block.percents ∧ block.next ≠ 's'

instance (block : Block) : Decidable block.Marks := inferInstanceAs (Decidable (_ ∧ _))

instance (block : Block) : Decidable block.Strays := inferInstanceAs (Decidable (_ ∧ _))

namespace Runs

/-- The number of runs of odd length with an `s` right after them. -/
def markers (runs : Runs) : Nat := runs.blocks.countP fun block => block.Marks

/-- Some run of odd length has no `s` right after it. -/
def HasStray (runs : Runs) : Prop := (∃ block ∈ runs.blocks, block.Strays) ∨ Odd runs.last

instance (runs : Runs) : Decidable runs.HasStray := inferInstanceAs (Decidable (_ ∨ _))

end Runs

/-! ## The signs of a template -/

/-- The tokens that are neither text nor an escape. -/
def Token.isSign : Token → Bool
  | .marker | .stray => true
  | .text _ | .escape => false

/-- The token that the last percent sign of an odd run makes. -/
def Block.sign? (block : Block) : Option Token :=
  if Odd block.percents then some (if block.next = 's' then .marker else .stray) else none

def Runs.signs (runs : Runs) : List Token :=
  runs.blocks.filterMap Block.sign? ++ if Odd runs.last then [.stray] else []

theorem Block.sign?_eq_marker_iff {block : Block} : block.sign? = some .marker ↔ block.Marks := by
  unfold sign? Marks
  by_cases hodd : Odd block.percents
  · by_cases hs : block.next = 's'
    · simp [hodd, hs]
    · simp [hodd, hs]
  · simp [hodd]

theorem Block.sign?_eq_stray_iff {block : Block} : block.sign? = some .stray ↔ block.Strays := by
  unfold sign? Strays
  by_cases hodd : Odd block.percents
  · by_cases hs : block.next = 's'
    · simp [hodd, hs]
    · simp [hodd, hs]
  · simp [hodd]

theorem filter_isSign_pushText (c : Char) (ts : List Token) :
    (pushText c ts).filter Token.isSign = ts.filter Token.isSign := by
  rcases pushText_cases c ts with ⟨s, rest, hts, hpush⟩ | hpush
  · rw [hpush, hts]
    rfl
  · rw [hpush]
    rfl

/-- The pairs at the front of a run are escapes, so that at most one percent sign of it matters. -/
theorem filter_isSign_tokens_percentSigns (n : Nat) (rest : List Char) :
    (tokens (percentSigns n ++ rest)).filter Token.isSign =
      (tokens (if Odd n then '%' :: rest else rest)).filter Token.isSign := by
  induction n using Nat.twoStepInduction with
  | zero => rfl
  | one => rfl
  | more n ih _ =>
      have hparity : Odd (n + 2) ↔ Odd n := by simp [parity_simps]
      have hpair : tokens (percentSigns (n + 2) ++ rest) =
          .escape :: tokens (percentSigns n ++ rest) := rfl
      rw [hpair, List.filter_cons_of_neg (by decide), ih]
      simp only [hparity]

theorem filter_isSign_tokens_block (block : Block) (rest : List Char) :
    (tokens (block.source ++ rest)).filter Token.isSign =
      block.sign?.toList ++ (tokens rest).filter Token.isSign := by
  obtain ⟨n, c, hc⟩ := block
  rw [Block.source_append, filter_isSign_tokens_percentSigns, Block.sign?]
  by_cases hodd : Odd n
  · rw [if_pos hodd, if_pos hodd]
    by_cases hs : c = 's'
    · subst c
      rfl
    · rw [tokens_stray (by simp [hs]) (by simp [hc]), tokens_cons_of_ne hc, if_neg hs,
        List.filter_cons_of_pos rfl, filter_isSign_pushText]
      rfl
  · rw [if_neg hodd, if_neg hodd, tokens_cons_of_ne hc, filter_isSign_pushText]
    rfl

theorem filter_isSign_tokens_source (runs : Runs) :
    (tokens runs.source).filter Token.isSign = runs.signs := by
  obtain ⟨blocks, last⟩ := runs
  induction blocks with
  | nil =>
      have hlast := filter_isSign_tokens_percentSigns last []
      rw [List.append_nil] at hlast
      rw [Runs.source, List.flatMap_nil, List.nil_append, hlast, Runs.signs, List.filterMap_nil,
        List.nil_append]
      by_cases hodd : Odd last
      · rw [if_pos hodd, if_pos hodd]
        rfl
      · rw [if_neg hodd, if_neg hodd]
        rfl
  | cons block blocks ih =>
      rw [Runs.source_cons, ← Block.source_append, filter_isSign_tokens_block, ih, Runs.signs,
        Runs.signs, List.filterMap_cons]
      cases block.sign? with
      | none => rfl
      | some sign => rfl

theorem count_marker_tokens_source (runs : Runs) :
    (tokens runs.source).count .marker = runs.markers := by
  have hlast : (if Odd runs.last then [Token.stray] else []).count .marker = 0 := by
    by_cases hodd : Odd runs.last
    · simp [hodd]
    · simp [hodd]
  have hsign : Token.isSign .marker = true := rfl
  rw [← List.count_filter hsign, filter_isSign_tokens_source, Runs.signs, List.count_append, hlast,
    Nat.add_zero, List.count_filterMap, Runs.markers]
  apply List.countP_congr
  intro block _
  simp [Block.sign?_eq_marker_iff]

theorem stray_mem_tokens_source_iff (runs : Runs) :
    Token.stray ∈ tokens runs.source ↔ runs.HasStray := by
  have hsign : Token.stray ∈ tokens runs.source ↔
      Token.stray ∈ (tokens runs.source).filter Token.isSign := by
    simp [Token.isSign]
  rw [hsign, filter_isSign_tokens_source, Runs.signs, List.mem_append, List.mem_filterMap,
    Runs.HasStray]
  simp [Block.sign?_eq_stray_iff]

/-! ## The outcome of the literal variant -/

theorem literal_of_wrong_count {template : String} {values : List Value} (hvalues : values ≠ [])
    (hcount : values.length ≠ countMarkers template) :
    literal template values =
      .error (.mismatch .count template (.int (countMarkers template)) (.int values.length)) := by
  have hnonempty : values.isEmpty = false := by simpa using hvalues
  unfold literal
  simp only [hnonempty, Bool.false_eq_true, if_false, Ne.symm hcount]

theorem literal_cases (template : String) {values : List Value} (hvalues : values ≠ []) :
    (values.length ≠ countMarkers template ∧ literal template values =
      .error (.mismatch .count template (.int (countMarkers template)) (.int values.length))) ∨
    (values.length = countMarkers template ∧ Token.stray ∈ tokens template.toList ∧
      literal template values = .error (.mismatch .strayPercent template
        (.int (countMarkers template)) (.int (countMarkers template)))) ∨
    (values.length = countMarkers template ∧ Token.stray ∉ tokens template.toList ∧
      ∃ sql, literal template values = .ok sql) := by
  by_cases hcount : values.length = countMarkers template
  · have hmarker : Token.marker ∈ tokens template.toList := by
      by_contra hnone
      rw [countMarkers_eq_zero_iff.mpr hnone, List.length_eq_zero_iff] at hcount
      exact hvalues hcount
    by_cases hstray : Token.stray ∈ tokens template.toList
    · exact Or.inr (Or.inl ⟨hcount, hstray, literal_of_stray hmarker hstray hcount⟩)
    · exact Or.inr (Or.inr ⟨hcount, hstray, (exists_literal_iff_of_marker hmarker hcount).mpr hstray⟩)
  · exact Or.inl ⟨hcount, literal_of_wrong_count hvalues hcount⟩

/-- The markers of a template are its runs of odd length right before an `s`.  With parameters, the
literal variant fails at their number if it is not the number of markers, whatever else the template
holds; it fails at a stray percent sign if the numbers agree and another run has odd length; and it
has a result in every other case, whatever the parameters are. -/
theorem parity_decides_literal (template : String) :
    ∃ runs : Runs, (∀ other : Runs, other.source = template.toList ↔ other = runs) ∧
      countMarkers template = runs.markers ∧
      ∀ (parameters : Value) (values : List Value),
        parameters.elements = .ok values → values ≠ [] →
        (literalOf template parameters =
            .error (.mismatch .count template (.int runs.markers) (.int values.length)) ↔
          values.length ≠ runs.markers) ∧
        (literalOf template parameters =
            .error (.mismatch .strayPercent template (.int runs.markers) (.int runs.markers)) ↔
          values.length = runs.markers ∧ runs.HasStray) ∧
        ((∃ sql, literalOf template parameters = .ok sql) ↔
          values.length = runs.markers ∧ ¬ runs.HasStray) := by
  have hmarkers : countMarkers template = (Runs.ofChars template.toList).markers := by
    rw [← count_marker_tokens_source, Runs.source_ofChars]
    rfl
  have hstray : Token.stray ∈ tokens template.toList ↔ (Runs.ofChars template.toList).HasStray := by
    rw [← stray_mem_tokens_source_iff, Runs.source_ofChars]
  refine ⟨Runs.ofChars template.toList, fun other => Runs.source_eq_iff, hmarkers, ?_⟩
  intro parameters values hgiven hvalues
  rw [literalOf_eq_literal hgiven, ← hstray, ← hmarkers]
  rcases literal_cases template hvalues with ⟨hcount, hliteral⟩ | ⟨hcount, hmem, hliteral⟩ |
    ⟨hcount, hmem, sql, hliteral⟩
  · simp [hliteral, hcount]
  · simp [hliteral, hcount, hmem]
  · simp [hliteral, hcount, hmem]

/-- One more percent sign at the end is stray, which is noticed where the number of parameters is
right. -/
theorem parity_decides_literal_of_run_at_end :
    let template := "%%s%%%s"
    let longer := "%%s%%%s%"
    let one : Value := .list [.text "%"]
    let two : Value := .tuple [.int 1, .none]
    countMarkers longer = 1 ∧ (∃ sql, literalOf template one = .ok sql) ∧
      literalOf longer one = .error (.mismatch .strayPercent longer (.int 1) (.int 1)) ∧
      literalOf longer two = .error (.mismatch .count longer (.int 1) (.int 2)) := by
  intro template longer one two
  have hone : one.elements = .ok [.text "%"] := rfl
  have htwo : two.elements = .ok [.int 1, .none] := rfl
  obtain ⟨runs, hcut, -, houtcome⟩ := parity_decides_literal template
  obtain ⟨longerRuns, hcutLonger, hmarkers, houtcomeLonger⟩ := parity_decides_literal longer
  have hruns : (⟨[⟨2, 's', by decide⟩, ⟨3, 's', by decide⟩], 0⟩ : Runs) = runs :=
    (hcut _).mp (by decide)
  have hlongerRuns : (⟨[⟨2, 's', by decide⟩, ⟨3, 's', by decide⟩], 1⟩ : Runs) = longerRuns :=
    (hcutLonger _).mp (by decide)
  subst runs longerRuns
  obtain ⟨-, -, hresult⟩ := houtcome one _ hone (by simp)
  obtain ⟨-, hstray, -⟩ := houtcomeLonger one _ hone (by simp)
  obtain ⟨hcount, -, -⟩ := houtcomeLonger two _ htwo (by simp)
  exact ⟨hmarkers, hresult.mpr (by decide), hstray.mpr (by decide), hcount.mpr (by decide)⟩

end SqlFixtures.Template
