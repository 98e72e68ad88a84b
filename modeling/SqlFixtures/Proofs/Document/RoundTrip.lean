import SqlFixtures.Proofs.Document.Format
import SqlFixtures.Proofs.Document.Writing
import SqlFixtures.Proofs.Xml.Decoding
import SqlFixtures.Proofs.Xml.Namespace
import Mathlib.Tactic

/-!
# Reading what was written

Reading a document that was written gives back its cases.  The written text is cut into the tags it
was put together from, with blanks in between; each tag of a case becomes an element with the fields
of the case as attributes, and blanks leave no trace in the elements that are read as cases.
-/

namespace SqlFixtures.Document

open Record (Case)
open Xml

/-! ## The attributes of a case -/

def fieldNames : List String := ["id", "value", "database-types"]

def caseAttributes (c : Case) : List (String × String) :=
  [("id", c.id), ("value", c.value)] ++ (c.databaseTypes.map ("database-types", ·)).toList

theorem names_caseAttributes_sublist (c : Case) :
    ((caseAttributes c).map (·.1)).Sublist fieldNames := by
  rw [caseAttributes, fieldNames]
  cases c.databaseTypes with
  | none => simp
  | some types => simp

theorem name_mem_fieldNames {c : Case} {a : String × String} (ha : a ∈ caseAttributes c) :
    a.1 ∈ fieldNames :=
  (names_caseAttributes_sublist c).subset (List.mem_map_of_mem ha)

theorem isQuotable_of_mem_caseAttributes {c : Case} {a : String × String}
    (ha : a ∈ caseAttributes c) : IsQuotable (a.1.toList, a.2.toList.flatMap attributeChar) := by
  have hnames : ∀ n ∈ fieldNames, n.toList ≠ [] ∧
      ∀ c ∈ n.toList, c ∉ ['=', '>', '"', '\''] ∧ isSpace c = false := by
    simp [fieldNames, isSpace]
  obtain ⟨hne, hplain⟩ := hnames a.1 (name_mem_fieldNames ha)
  refine ⟨hne, hplain, ?_⟩
  intro hmem
  obtain ⟨d, -, hd⟩ := List.mem_flatMap.mp hmem
  exact (mem_attributeChar hd).1 rfl

/-! ## The markup of a document -/

def caseName : List Char := "sql-case".toList

def caseTag (c : Case) : List Char := Tag.selfClosing caseName (writtenPairs (caseAttributes c))

def casePieces (c : Case) : List Piece :=
  List.replicate 4 (.text ' ') ++ [.tag (caseTag c), .text '\n']

theorem flatMap_caseAttributes (c : Case) :
    (writtenPairs (caseAttributes c)).flatMap quotedPair =
      attributeChars "id" c.id ++ attributeChars "value" c.value ++
        (match c.databaseTypes with
          | some types => attributeChars "database-types" types
          | none => []) := by
  rw [← flatMap_attributeChars, caseAttributes]
  cases c.databaseTypes with
  | none => simp
  | some types => simp

theorem caseChars_eq (c : Case) :
    caseChars c = List.replicate 4 ' ' ++ ('<' :: caseTag c ++ '>' :: ['\n']) := by
  have hchars : ∀ start stop, "    <sql-case".toList = start → " />\n".toList = stop →
      caseChars c = start ++ (writtenPairs (caseAttributes c)).flatMap quotedPair ++ stop := by
    rintro _ _ rfl rfl
    rw [flatMap_caseAttributes, ← List.append_assoc, ← List.append_assoc]
    rfl
  have hstart : "    <sql-case".toList = List.replicate 4 ' ' ++ '<' :: caseName := by decide
  rw [hchars _ ([' ', '/'] ++ ['>', '\n']) hstart (by decide), caseTag, Tag.selfClosing]
  simp only [List.append_assoc, List.cons_append, List.nil_append]

theorem quotable_writtenPairs {c : Case} {pair : List Char × List Char}
    (hpair : pair ∈ writtenPairs (caseAttributes c)) : IsQuotable pair := by
  obtain ⟨a, ha, rfl⟩ := List.mem_map.mp hpair
  exact isQuotable_of_mem_caseAttributes ha

theorem content_caseChars (c : Case) (rest : List Char) :
    Markup.content .standard (caseChars c ++ rest) =
      (Markup.content .standard rest).map (casePieces c ++ ·) := by
  have hblank : ∀ rest, Markup.content .standard (' ' :: rest) =
      (Markup.content .standard rest).map (.text ' ' :: ·) :=
    fun rest => Markup.content_text (by decide) rest
  have hfeed : Markup.content .standard ('\n' :: rest) =
      (Markup.content .standard rest).map (.text '\n' :: ·) :=
    Markup.content_text (by decide) rest
  have htag : Markup.content .standard ('<' :: caseTag c ++ '>' :: '\n' :: rest) =
      (Markup.content .standard ('\n' :: rest)).map (.tag (caseTag c) :: ·) :=
    Markup.content_selfClosing (by decide) (by decide) (fun _ => quotable_writtenPairs) _
  have hline : caseChars c ++ rest =
      ' ' :: ' ' :: ' ' :: ' ' :: ('<' :: caseTag c ++ '>' :: '\n' :: rest) := by
    rw [caseChars_eq]
    simp [List.replicate]
  rw [hline, hblank, hblank, hblank, hblank, htag, hfeed]
  simp [casePieces, List.replicate, Function.comp_def]

theorem content_casesChars (cases : List Case) (rest : List Char) :
    Markup.content .standard (cases.flatMap caseChars ++ rest) =
      (Markup.content .standard rest).map (cases.flatMap casePieces ++ ·) := by
  induction cases with
  | nil => simp
  | cons c cases ih =>
      rw [List.flatMap_cons, List.append_assoc, content_caseChars, ih, Option.map_map]
      simp [Function.comp_def]

def rootName : List Char := "sql-cases".toList

def documentPieces (cases : List Case) : List Piece :=
  .tag rootName :: .text '\n' :: (cases.flatMap casePieces ++ [.tag ('/' :: rootName)])

theorem writeChars_eq (cases : List Case) :
    writeChars cases = '<' :: rootName ++ '>' :: '\n' ::
      (cases.flatMap caseChars ++ ('<' :: '/' :: rootName ++ ['>'])) := by
  have hchars : ∀ start stop, "<sql-cases>\n".toList = start → "</sql-cases>".toList = stop →
      writeChars cases = start ++ cases.flatMap caseChars ++ stop := by
    rintro _ _ rfl rfl
    rfl
  rw [hchars ('<' :: rootName ++ ['>', '\n']) ('<' :: '/' :: rootName ++ ['>']) (by decide)
    (by decide)]
  simp only [List.append_assoc, List.cons_append, List.nil_append]

theorem content_writeChars (cases : List Case) :
    Markup.content .standard (writeChars cases) = some (documentPieces cases) := by
  have hslashed : ('/' :: rootName).all Markup.isPlain := by decide
  have hempty : Markup.StaysInTag .standard [] := Markup.staysInTag_of_unquoted (by simp)
  have hclosing : Markup.content .standard ('<' :: '/' :: rootName ++ ['>']) =
      some [.tag ('/' :: rootName)] := by
    have := Markup.content_tag (List.cons_ne_nil _ _) hslashed hempty []
    rwa [List.append_nil] at this
  have hfeed : ∀ rest, Markup.content .standard ('\n' :: rest) =
      (Markup.content .standard rest).map (.text '\n' :: ·) :=
    fun rest => Markup.content_text (by decide) rest
  have hopening : ∀ rest, Markup.content .standard ('<' :: rootName ++ '>' :: rest) =
      (Markup.content .standard rest).map (.tag rootName :: ·) := by
    have := Markup.content_tag (by decide : rootName ≠ []) (by decide) hempty
    rwa [List.append_nil] at this
  rw [writeChars_eq, hopening, hfeed, content_casesChars, hclosing]
  rfl

/-! ## The elements of a document -/

def caseElement (c : Case) : Element := ⟨"sql-case", caseAttributes c, "", []⟩

theorem ofRaw_caseTag (c : Case) :
    Tag.ofRaw .standard (caseTag c) =
      some (.opening ⟨caseName, writtenPairs (caseAttributes c), true⟩) := by
  have hnames : (writtenPairs (caseAttributes c)).map (·.1) =
      ((caseAttributes c).map (·.1)).map String.toList := by
    simp [writtenPairs, Function.comp_def]
  apply Tag.ofRaw_selfClosing (by decide) (by decide) (fun _ => quotable_writtenPairs)
  · rw [hnames, List.all_eq_true]
    intro n hn
    obtain ⟨name, hname, rfl⟩ := List.mem_map.mp hn
    have hqualified : ∀ name ∈ fieldNames, Alphabet.standard.isQualifiedName name.toList := by
      decide
    exact hqualified name ((names_caseAttributes_sublist c).subset hname)
  · rw [hnames]
    have hnodup : (fieldNames.map String.toList).Nodup := by decide
    exact hnodup.sublist ((names_caseAttributes_sublist c).map _)

theorem finish_caseFrame (c : Case) :
    (⟨caseName, (caseAttributes c).map fun a => (a.1.toList, a.2.toList), [], []⟩ : Frame).finish =
      caseElement c := by
  have hattributes : ((caseAttributes c).map fun a => (a.1.toList, a.2.toList)).map
      (fun a => (String.ofList a.1, String.ofList a.2)) = caseAttributes c := by
    simp [Function.comp_def]
  rw [Frame.finish, hattributes]
  rfl

theorem readElement_selfClosing {alphabet : Alphabet}
    {attributesOf : OpeningTag → Option (List (List Char × List Char))}
    {insert : List Char → Option Element} {raw : List Char} {tag : OpeningTag}
    {attributes : List (List Char × List Char)}
    (htag : Tag.ofRaw alphabet raw = some (.opening tag)) (hself : tag.selfClosing = true)
    (hattributes : attributesOf tag = some attributes) (current : Frame) (outer : List Frame)
    (pieces : List Piece) :
    Content.readElement alphabet attributesOf insert current outer (.tag raw :: pieces) =
      Content.readElement alphabet attributesOf insert
        (current.addChild (⟨tag.name, attributes, [], []⟩ : Frame).finish) outer pieces := by
  cases outer with
  | nil =>
      rw [Content.readElement, htag]
      simp [hattributes, hself]
  | cons next rest =>
      rw [Content.readElement, htag]
      simp [hattributes, hself]

section

variable (setting : Setting) (insert : List Char → Option Element)

theorem exists_addText (frame : Frame) (s : List Char) :
    ∃ text, frame.addText s = { frame with text } := by
  unfold Frame.addText
  split
  · exact ⟨_, rfl⟩
  · exact ⟨frame.text, rfl⟩

theorem readElement_text (current : Frame) (outer : List Frame) (s : List Char)
    (pieces : List Piece) :
    ∃ text, Content.readElement .standard (Dtd.empty.attributesOf setting) insert current outer
        (s.map .text ++ pieces) =
      Content.readElement .standard (Dtd.empty.attributesOf setting) insert
        { current with text } outer pieces := by
  induction s generalizing current with
  | nil => exact ⟨current.text, rfl⟩
  | cons c s ih =>
      obtain ⟨text, htext⟩ := exists_addText current [c]
      obtain ⟨text', hrest⟩ := ih { current with text }
      refine ⟨text', ?_⟩
      rw [List.map_cons, List.cons_append, Content.readElement, htext, hrest]

theorem readElement_casePieces (current : Frame) (outer : List Frame) (c : Case)
    (pieces : List Piece) :
    ∃ text, Content.readElement .standard (Dtd.empty.attributesOf setting) insert current outer
        (casePieces c ++ pieces) =
      Content.readElement .standard (Dtd.empty.attributesOf setting) insert
        { current with text, children := caseElement c :: current.children } outer pieces := by
  obtain ⟨text, htext⟩ := readElement_text setting insert current outer [' ', ' ', ' ', ' ']
    (.tag (caseTag c) :: .text '\n' :: pieces)
  obtain ⟨text', htext'⟩ := readElement_text setting insert
    (Frame.addChild { current with text } (caseElement c)) outer ['\n'] pieces
  refine ⟨text', ?_⟩
  have hpieces : casePieces c ++ pieces =
      [' ', ' ', ' ', ' '].map .text ++ (.tag (caseTag c) :: .text '\n' :: pieces) := rfl
  rw [hpieces, htext, readElement_selfClosing (ofRaw_caseTag c) rfl
    (attributesOf_writtenPairs setting caseName (caseAttributes c) true), finish_caseFrame]
  exact htext'

theorem readElement_casesPieces (current : Frame) (outer : List Frame) (cases : List Case)
    (pieces : List Piece) :
    ∃ text, Content.readElement .standard (Dtd.empty.attributesOf setting) insert current outer
        (cases.flatMap casePieces ++ pieces) =
      Content.readElement .standard (Dtd.empty.attributesOf setting) insert
        { current with text, children := (cases.map caseElement).reverse ++ current.children }
        outer pieces := by
  induction cases generalizing current with
  | nil => exact ⟨current.text, rfl⟩
  | cons c cases ih =>
      obtain ⟨text, hfirst⟩ := readElement_casePieces setting insert current outer c
        (cases.flatMap casePieces ++ pieces)
      obtain ⟨text', hrest⟩ :=
        ih { current with text, children := caseElement c :: current.children }
      refine ⟨text', ?_⟩
      rw [List.flatMap_cons, List.append_assoc, hfirst, hrest]
      simp

end

theorem readElement_closing {alphabet : Alphabet}
    {attributesOf : OpeningTag → Option (List (List Char × List Char))}
    {insert : List Char → Option Element} {raw : List Char} {current : Frame}
    (htag : Tag.ofRaw alphabet raw = some (.closing current.name)) (pieces : List Piece) :
    Content.readElement alphabet attributesOf insert current [] (.tag raw :: pieces) =
      some (current.finish, pieces) := by
  rw [Content.readElement, htag]
  simp

/-- The text of the root does not matter: it is what stands between the tags. -/
theorem ofPieces_documentPieces (setting : Setting) (hsetting : setting.alphabet = .standard)
    (isBounded : Dtd → Bool) (cases : List Case) :
    ∃ text, Content.ofPieces setting isBounded (documentPieces cases) =
      some ⟨"sql-cases", [], text, cases.map caseElement⟩ := by
  let insert := Content.ofEntity Dtd.empty setting 0
  let frame : Frame := ⟨rootName, [], [], []⟩
  obtain ⟨text, hfeed⟩ := readElement_text setting insert frame [] ['\n']
    (cases.flatMap casePieces ++ [.tag ('/' :: rootName)])
  obtain ⟨text', hcases⟩ := readElement_casesPieces setting insert { frame with text } [] cases
    [.tag ('/' :: rootName)]
  have hopening : Tag.ofRaw .standard rootName = some (.opening ⟨rootName, [], false⟩) := by
    decide +kernel
  have hclosing : Tag.ofRaw .standard ('/' :: rootName) = some (.closing rootName) := by
    decide +kernel
  have hattributes : Dtd.empty.attributesOf setting ⟨rootName, [], false⟩ = some [] := rfl
  have hroot : Content.elementAt Dtd.empty setting ⟨rootName, [], false⟩
      (.text '\n' :: (cases.flatMap casePieces ++ [.tag ('/' :: rootName)])) =
        some (⟨"sql-cases", [], String.ofList text'.reverse, cases.map caseElement⟩, []) := by
    change Content.readElement setting.alphabet (Dtd.empty.attributesOf setting) insert frame []
      (['\n'].map .text ++ (cases.flatMap casePieces ++ [.tag ('/' :: rootName)])) = _
    rw [hsetting, hfeed, hcases, readElement_closing hclosing]
    have hname : String.ofList rootName = "sql-cases" := String.ofList_toList
    simp only [Frame.finish, frame, hname, List.map_nil, List.append_nil, List.reverse_reverse]
  refine ⟨String.ofList text'.reverse, ?_⟩
  have hpieces : Content.ofPieces setting isBounded (documentPieces cases) =
      Content.rootOf Dtd.empty setting (documentPieces cases) := rfl
  rw [hpieces, documentPieces, Content.rootOf, hsetting, hopening]
  simp [hroot]

theorem resolve_root (text : String) (cases : List Case) :
    Namespace.resolve ⟨"sql-cases", [], text, cases.map caseElement⟩ =
      some ⟨"sql-cases", [], text, cases.map caseElement⟩ := by
  have hscope : Namespace.outermost.lookup "" = none := by decide
  have hroot : Namespace.IsPlainName "sql-cases" := by decide +kernel
  have htag : Namespace.IsPlainName "sql-case" := by decide +kernel
  have hnames : ∀ name ∈ fieldNames, Namespace.IsPlainName name := by decide +kernel
  have hnodup : fieldNames.Nodup := by decide
  apply Namespace.resolveIn_eq_self hscope hroot (by simp) (by simp)
  intro child hchild
  obtain ⟨c, -, rfl⟩ := List.mem_map.mp hchild
  exact Namespace.resolveIn_eq_self hscope htag
    (fun a ha => hnames a.1 (name_mem_fieldNames ha))
    (hnodup.sublist (names_caseAttributes_sublist c)) (by simp [caseElement])

/-! ## Reading a written document -/

/-- A case that can be written: its id is not empty, and all its characters may stand in a
document. -/
structure IsWritable (c : Case) : Prop where
  id_ne : c.id ≠ ""
  legal : ∀ s ∈ [c.id, c.value] ++ c.databaseTypes.toList, s.toList.all isLegal

/-- The character may stand in a document and is not rewritten when the document is read. -/
def isKept (d : Char) : Bool := d ≠ '\r' && isLegal d

theorem value_mem_of_mem_caseAttributes {c : Case} {a : String × String}
    (ha : a ∈ caseAttributes c) : a.2 ∈ [c.id, c.value] ++ c.databaseTypes.toList := by
  rw [caseAttributes] at ha
  cases hlist : c.databaseTypes with
  | none =>
      have hcases : a = ("id", c.id) ∨ a = ("value", c.value) := by simpa [hlist] using ha
      rcases hcases with rfl | rfl
      · simp
      · simp
  | some types =>
      have hcases : a = ("id", c.id) ∨ a = ("value", c.value) ∨ a = ("database-types", types) := by
        simpa [hlist] using ha
      rcases hcases with rfl | rfl | rfl
      · simp
      · simp
      · simp

theorem all_isKept_quotedPair {c : Case} (hc : IsWritable c) {pair : List Char × List Char}
    (hpair : pair ∈ writtenPairs (caseAttributes c)) : (quotedPair pair).all isKept := by
  obtain ⟨a, ha, rfl⟩ := List.mem_map.mp hpair
  have hnames : ∀ name ∈ fieldNames, name.toList.all isKept := by decide
  have hname := hnames a.1 (name_mem_fieldNames ha)
  have hvalue : (a.2.toList.flatMap attributeChar).all isKept := by
    rw [List.all_eq_true]
    intro d hd
    obtain ⟨d', hd', hmem⟩ := List.mem_flatMap.mp hd
    have hlegal : isLegal d' :=
      List.all_eq_true.mp (hc.legal a.2 (value_mem_of_mem_caseAttributes ha)) d' hd'
    obtain ⟨-, hreturn, hkept⟩ := mem_attributeChar hmem
    simp [isKept, hreturn, hkept hlegal]
  have hmarks : isKept ' ' ∧ isKept '=' ∧ isKept '"' := by decide
  simp [quotedPair, hname, hvalue, hmarks]

theorem all_isKept_caseChars {c : Case} (hc : IsWritable c) : (caseChars c).all isKept := by
  have hpairs : ((writtenPairs (caseAttributes c)).flatMap quotedPair).all isKept := by
    rw [List.all_flatMap, List.all_eq_true]
    exact fun pair => all_isKept_quotedPair hc
  have hmarks : (List.replicate 4 ' ').all isKept ∧ ('<' :: caseName).all isKept ∧
      [' ', '/', '>', '\n'].all isKept := by
    decide
  have hline : caseChars c = List.replicate 4 ' ' ++ '<' :: caseName ++
      (writtenPairs (caseAttributes c)).flatMap quotedPair ++ [' ', '/', '>', '\n'] := by
    rw [caseChars_eq, caseTag, Tag.selfClosing]
    simp only [List.append_assoc, List.cons_append, List.nil_append]
  rw [hline, List.all_append, List.all_append, List.all_append, hpairs, hmarks.1, hmarks.2.1,
    hmarks.2.2]
  rfl

theorem all_isKept_writeChars {cases : List Case} (hcases : ∀ c ∈ cases, IsWritable c) :
    (writeChars cases).all isKept := by
  have hlines : (cases.flatMap caseChars).all isKept := by
    rw [List.all_flatMap, List.all_eq_true]
    exact fun c hc => all_isKept_caseChars (hcases c hc)
  have hmarks : ('<' :: rootName ++ ['>', '\n']).all isKept ∧
      ('<' :: '/' :: rootName ++ ['>']).all isKept := by
    decide
  have hdocument : writeChars cases = ('<' :: rootName ++ ['>', '\n']) ++
      cases.flatMap caseChars ++ ('<' :: '/' :: rootName ++ ['>']) := by
    rw [writeChars_eq]
    simp only [List.append_assoc, List.cons_append, List.nil_append]
  rw [hdocument, List.all_append, List.all_append, hlines, hmarks.1, hmarks.2]
  rfl

theorem holds_caseElement {c : Case} (hid : c.id ≠ "") :
    Holds "database-types" (caseElement c) c := by
  refine ⟨rfl, hid, rfl, ?_, ?_⟩
  · rw [caseElement, caseAttributes]
    cases c.databaseTypes with
    | none => rfl
    | some types => rfl
  · intro a ha
    have hname := name_mem_fieldNames ha
    simpa [fieldNames] using hname

theorem isKept_of_mem_writeChars {cases : List Case} (hcases : ∀ c ∈ cases, IsWritable c)
    {d : Char} (hd : d ∈ writeChars cases) : d ≠ '\r' ∧ isLegal d = true := by
  simpa [isKept] using List.all_eq_true.mp (all_isKept_writeChars hcases) d hd

theorem ofBytes_writeCases {cases : List Case} (hcases : ∀ c ∈ cases, IsWritable c) :
    Script.ofBytes false (writeCases cases) = .ok ⟨false, .utf8, writeChars cases⟩ := by
  have hlegal : (writeChars cases).all isLegal :=
    List.all_eq_true.mpr fun d hd => (isKept_of_mem_writeChars hcases hd).2
  obtain ⟨rest, hrest⟩ : ∃ rest, writeChars cases = '<' :: 's' :: rest :=
    ⟨_, writeChars_eq cases⟩
  have hbytes : writeCases cases = utf8Bytes (writeChars cases) := rfl
  rw [hrest] at hlegal
  rw [hbytes, hrest]
  exact ofBytes_utf8Bytes (by decide) (by decide) hlegal

theorem root_writeChars {cases : List Case} (hcases : ∀ c ∈ cases, IsWritable c) (bytes : Nat) :
    ∃ text, Script.root ⟨false, .utf8, writeChars cases⟩ bytes =
      some ⟨"sql-cases", [], text, cases.map caseElement⟩ := by
  obtain ⟨text, hpieces⟩ := ofPieces_documentPieces ⟨false, Encoding.utf8.alphabet⟩ rfl
    (Script.isBounded ⟨false, .utf8, writeChars cases⟩ bytes) cases
  have hlines : unifyLines (writeChars cases) = writeChars cases :=
    unifyLines_eq_self fun hmem => (isKept_of_mem_writeChars hcases hmem).1 rfl
  have hcontent : Markup.content Encoding.utf8.alphabet (unifyLines (writeChars cases)) =
      some (documentPieces cases) := by
    rw [hlines]
    exact content_writeChars cases
  refine ⟨text, ?_⟩
  simp only [Script.root, hcontent, Option.bind_eq_bind, Option.bind_some, hpieces, resolve_root]

theorem parse_writeCases {cases : List Case} (hcases : ∀ c ∈ cases, IsWritable c) :
    ∃ text, Xml.parse (writeCases cases) =
      .ok ⟨"sql-cases", [], text, cases.map caseElement⟩ := by
  obtain ⟨text, hroot⟩ := root_writeChars hcases (writeCases cases).length
  refine ⟨text, ?_⟩
  rw [Xml.parse, parseAs, ofBytes_writeCases hcases]
  simp [bind, Except.bind, hroot]

/-- Reading a written document gives back its cases, in order and with their texts unchanged. -/
theorem readCases_writeCases (resource : Value) {cases : List Case}
    (hcases : ∀ c ∈ cases, IsWritable c) : readCases resource (writeCases cases) = .ok cases := by
  obtain ⟨text, hparse⟩ := parse_writeCases hcases
  rw [readCases_eq_ok_iff]
  refine ⟨_, hparse, rfl, ?_⟩
  rw [List.forall₂_map_left_iff, List.forall₂_same]
  intro c hc
  refine ⟨rfl, rfl, ?_⟩
  rw [ofFields_fieldsOf_eq_valid_iff, holds_used_iff]
  exact Or.inl (holds_caseElement (hcases c hc).id_ne)

/-- Blanks, line ends, quotes, markup and percent signs all come back, and an empty list of database
types is kept apart from none. -/
theorem readCases_writeCases_of_markup :
    readCases "a.xml" (writeCases
        [⟨" é\r\n", "\tSELECT '%s', \"%%\" <b> &amp; ]]> 漢 \n ", none⟩, ⟨"'", "", some ""⟩]) =
      .ok [⟨" é\r\n", "\tSELECT '%s', \"%%\" <b> &amp; ]]> 漢 \n ", none⟩,
        ⟨"'", "", some ""⟩] := by
  apply readCases_writeCases
  intro c hc
  have hcases := List.mem_pair.mp hc
  rcases hcases with rfl | rfl
  · exact ⟨by decide, by decide⟩
  · exact ⟨by decide, by decide⟩

end SqlFixtures.Document
