import SqlFixtures.Proofs.Template.Matching
import Mathlib.Tactic

/-!
# Runs of percent signs

A template is cut behind every character that is no percent sign.  Each piece is then a character
with the run of percent signs right before it, which may be empty, and what is left over at the end
is a last run.  The runs are as long as they can be, and no template can be cut in two ways.

Both replacements of the placeholder variant work on the pieces one by one.  The first takes one
percent sign from a run before an `s` and turns the `s` into a question mark; the runs stay apart,
since the question mark stands where the `s` stood.  The second halves each run and keeps the odd
percent sign.  So the variant can be written in a single pass over the runs.
-/

namespace SqlFixtures.Template

structure Block where
  percents : Nat
  next : Char
  next_ne : next ≠ '%'
  deriving DecidableEq

structure Runs where
  blocks : List Block
  last : Nat
  deriving DecidableEq

def percentSigns (n : Nat) : List Char := List.replicate n '%'

def Block.source (block : Block) : List Char := percentSigns block.percents ++ [block.next]

namespace Runs

/-- The characters of the template that is cut into the runs. -/
def source (runs : Runs) : List Char :=
  runs.blocks.flatMap Block.source ++ percentSigns runs.last

def lengthen : Runs → Runs
  | ⟨[], last⟩ => ⟨[], last + 1⟩
  | ⟨block :: blocks, last⟩ => ⟨{ block with percents := block.percents + 1 } :: blocks, last⟩

def push (c : Char) (hc : c ≠ '%') (runs : Runs) : Runs :=
  { runs with blocks := ⟨0, c, hc⟩ :: runs.blocks }

def ofChars : List Char → Runs
  | [] => ⟨[], 0⟩
  | c :: rest => if hc : c = '%' then (ofChars rest).lengthen else (ofChars rest).push c hc

end Runs

/-! ## Cutting a template -/

theorem percentSigns_succ (n : Nat) : percentSigns (n + 1) = '%' :: percentSigns n := rfl

theorem percentSigns_add (m n : Nat) :
    percentSigns (m + n) = percentSigns m ++ percentSigns n := by
  unfold percentSigns
  exact List.replicate_add m n '%'

theorem Block.source_append (block : Block) (rest : List Char) :
    block.source ++ rest = percentSigns block.percents ++ block.next :: rest := by
  unfold Block.source
  rw [List.append_assoc, List.singleton_append]

namespace Runs

theorem source_cons (block : Block) (blocks : List Block) (last : Nat) :
    source ⟨block :: blocks, last⟩ =
      percentSigns block.percents ++ block.next :: source ⟨blocks, last⟩ := by
  rw [← Block.source_append]
  simp [source]

theorem source_lengthen (runs : Runs) : runs.lengthen.source = '%' :: runs.source := by
  obtain ⟨blocks, last⟩ := runs
  cases blocks with
  | nil => rfl
  | cons block blocks => rfl

theorem source_push (c : Char) (hc : c ≠ '%') (runs : Runs) :
    (runs.push c hc).source = c :: runs.source := rfl

theorem ofChars_percent (rest : List Char) : ofChars ('%' :: rest) = (ofChars rest).lengthen := rfl

theorem ofChars_cons_of_ne {c : Char} (hc : c ≠ '%') (rest : List Char) :
    ofChars (c :: rest) = (ofChars rest).push c hc := by
  rw [ofChars, dif_neg hc]

theorem source_ofChars (cs : List Char) : (ofChars cs).source = cs := by
  induction cs with
  | nil => rfl
  | cons c cs ih =>
      by_cases hc : c = '%'
      · subst c
        rw [ofChars_percent, source_lengthen, ih]
      · rw [ofChars_cons_of_ne hc, source_push, ih]

theorem ofChars_percentSigns (n : Nat) : ofChars (percentSigns n) = ⟨[], n⟩ := by
  induction n with
  | zero => rfl
  | succ n ih =>
      rw [percentSigns_succ, ofChars_percent, ih]
      rfl

theorem ofChars_block_append (block : Block) (rest : List Char) :
    ofChars (percentSigns block.percents ++ block.next :: rest) =
      { ofChars rest with blocks := block :: (ofChars rest).blocks } := by
  obtain ⟨n, c, hc⟩ := block
  induction n with
  | zero => exact ofChars_cons_of_ne hc rest
  | succ n ih =>
      rw [percentSigns_succ, List.cons_append, ofChars_percent, ih]
      rfl

theorem ofChars_source (runs : Runs) : ofChars runs.source = runs := by
  obtain ⟨blocks, last⟩ := runs
  induction blocks with
  | nil => exact ofChars_percentSigns last
  | cons block blocks ih => rw [source_cons, ofChars_block_append, ih]

/-- A template is cut in one way. -/
theorem source_eq_iff {runs : Runs} {cs : List Char} : runs.source = cs ↔ runs = ofChars cs := by
  constructor
  · intro hsource
    rw [← hsource, ofChars_source]
  · intro hruns
    rw [hruns, source_ofChars]

end Runs

/-! ## The two replacements -/

/-- A block after the first replacement. -/
def Block.bind (block : Block) : Block :=
  if 0 < block.percents ∧ block.next = 's' then ⟨block.percents - 1, '?', by decide⟩ else block

/-- A block after the second replacement. -/
def Block.unescaped (block : Block) : List Char :=
  percentSigns ((block.percents + 1) / 2) ++ [block.next]

theorem bindMarkers_percentSigns_append {rest : List Char} (hrest : rest.head? ≠ some 's')
    (n : Nat) : bindMarkers (percentSigns n ++ rest) = percentSigns n ++ bindMarkers rest := by
  induction n with
  | zero => rfl
  | succ n ih =>
      have hhead : (percentSigns n ++ rest).head? ≠ some 's' := by
        cases n with
        | zero => exact hrest
        | succ n => simp [percentSigns_succ]
      rw [percentSigns_succ, List.cons_append, bindMarkers_cons_of_ne (fun h => hhead h.2), ih,
        List.cons_append]

theorem bindMarkers_block_append (block : Block) (rest : List Char) :
    bindMarkers (block.source ++ rest) = block.bind.source ++ bindMarkers rest := by
  obtain ⟨n, c, hc⟩ := block
  unfold Block.bind
  rw [Block.source_append, Block.source_append]
  by_cases hs : c = 's'
  · subst c
    cases n with
    | zero => exact bindMarkers_cons_of_ne (fun h => hc h.1)
    | succ n =>
        have hmarker : bindMarkers ('%' :: 's' :: rest) = '?' :: bindMarkers rest := rfl
        rw [percentSigns_add, List.append_assoc,
          bindMarkers_percentSigns_append (by simp [percentSigns]) n]
        simp [percentSigns, hmarker]
  · have hkept : bindMarkers (c :: rest) = c :: bindMarkers rest :=
      bindMarkers_cons_of_ne (fun h => hc h.1)
    rw [bindMarkers_percentSigns_append (by simpa using hs), hkept]
    simp [hs]

theorem bindMarkers_source (runs : Runs) :
    bindMarkers runs.source = Runs.source { runs with blocks := runs.blocks.map Block.bind } := by
  obtain ⟨blocks, last⟩ := runs
  induction blocks with
  | nil =>
      have hlast : bindMarkers (percentSigns last ++ []) = percentSigns last ++ bindMarkers [] :=
        bindMarkers_percentSigns_append (by simp) last
      simpa [Runs.source, bindMarkers] using hlast
  | cons block blocks ih =>
      rw [Runs.source_cons, ← Block.source_append, bindMarkers_block_append, ih, List.map_cons,
        Runs.source_cons, Block.source_append]

theorem unescape_percentSigns_append {rest : List Char} (hrest : rest.head? ≠ some '%') (n : Nat) :
    unescape (percentSigns n ++ rest) = percentSigns ((n + 1) / 2) ++ unescape rest := by
  induction n using Nat.twoStepInduction with
  | zero => rfl
  | one => exact unescape_cons_of_ne (fun h => hrest h.2)
  | more n ih _ =>
      have hhalf : (n + 2 + 1) / 2 = (n + 1) / 2 + 1 := by omega
      rw [hhalf, percentSigns_succ, percentSigns_succ, percentSigns_succ, List.cons_append,
        List.cons_append, unescape, ih, List.cons_append]

theorem unescape_source (runs : Runs) :
    unescape runs.source =
      runs.blocks.flatMap Block.unescaped ++ percentSigns ((runs.last + 1) / 2) := by
  obtain ⟨blocks, last⟩ := runs
  induction blocks with
  | nil =>
      have hlast : unescape (percentSigns last ++ []) =
          percentSigns ((last + 1) / 2) ++ unescape [] :=
        unescape_percentSigns_append (by simp) last
      simpa [Runs.source, unescape] using hlast
  | cons block blocks ih =>
      have hkept : unescape (block.next :: Runs.source ⟨blocks, last⟩) =
          block.next :: unescape (Runs.source ⟨blocks, last⟩) :=
        unescape_cons_of_ne (fun h => block.next_ne h.1)
      rw [Runs.source_cons, unescape_percentSigns_append (by simpa using block.next_ne), hkept, ih]
      simp [Block.unescaped]

/-! ## One pass -/

/-- A run before an `s` is halved and takes the `s` for a question mark; any other run is halved
and keeps its odd percent sign. -/
def Block.halved (block : Block) : List Char :=
  if 0 < block.percents ∧ block.next = 's' then percentSigns (block.percents / 2) ++ ['?']
  else percentSigns ((block.percents + 1) / 2) ++ [block.next]

def Runs.halved (runs : Runs) : List Char :=
  runs.blocks.flatMap Block.halved ++ percentSigns ((runs.last + 1) / 2)

theorem Block.unescaped_bind (block : Block) : block.bind.unescaped = block.halved := by
  unfold Block.bind Block.halved
  by_cases hmarker : 0 < block.percents ∧ block.next = 's'
  · have hpercents : block.percents - 1 + 1 = block.percents := by omega
    rw [if_pos hmarker, if_pos hmarker]
    simp only [Block.unescaped, hpercents]
  · rw [if_neg hmarker, if_neg hmarker]
    rfl

theorem unescape_bindMarkers_source (runs : Runs) :
    unescape (bindMarkers runs.source) = runs.halved := by
  rw [bindMarkers_source, unescape_source, List.flatMap_map]
  simp only [Block.unescaped_bind]
  rfl

/-- The placeholder variant halves every run of percent signs, upwards, or downwards where it takes
an `s` after the run for a question mark.  It holds no marker text. -/
theorem placeholder_halves_runs (template : String) :
    ∃ runs : Runs, (∀ other : Runs, other.source = template.toList ↔ other = runs) ∧
      (placeholder template).toList = runs.halved ∧
      ¬ markerText <:+: (placeholder template).toList := by
  refine ⟨Runs.ofChars template.toList, fun other => Runs.source_eq_iff, ?_,
    not_markerText_infix_placeholder template⟩
  have hhalved := unescape_bindMarkers_source (Runs.ofChars template.toList)
  rw [Runs.source_ofChars] at hhalved
  rw [placeholder, String.toList_ofList, hhalved]

example : placeholder "%%%s %%s %%%" = "%? %? %%" := by decide +kernel

end SqlFixtures.Template
