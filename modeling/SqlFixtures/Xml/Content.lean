import SqlFixtures.Xml.Dtd
import SqlFixtures.Xml.Element

/-!
# The content of elements

The pieces of a document are put together into elements.  Every opening tag is closed by a tag of
the same name inside the same element, and the replacement text of an entity is a whole content: an
element that starts in it ends in it.
-/

namespace SqlFixtures.Xml

/-- An element whose end was not met yet.  Text and children are kept last first. -/
structure Frame where
  name : List Char
  attributes : List (List Char × List Char)
  text : List Char
  children : List Element

namespace Frame

/-- Text after a child is not kept. -/
def addText (frame : Frame) (s : List Char) : Frame :=
  if frame.children.isEmpty then { frame with text := s.reverse ++ frame.text } else frame

def addChild (frame : Frame) (child : Element) : Frame :=
  { frame with children := child :: frame.children }

def finish (frame : Frame) : Element :=
  ⟨String.ofList frame.name,
    frame.attributes.map fun a => (String.ofList a.1, String.ofList a.2),
    String.ofList frame.text.reverse, frame.children.reverse⟩

def addContent (frame : Frame) (content : Element) : Frame :=
  content.children.foldl addChild (frame.addText content.text.toList)

end Frame

namespace Content

/-- Reads up to the end of the outermost element, and returns the pieces after it.  `insert` gives
the content that an entity stands for. -/
def readElement (alphabet : Alphabet)
    (attributesOf : OpeningTag → Option (List (List Char × List Char)))
    (insert : List Char → Option Element) (current : Frame) (outer : List Frame) :
    List Piece → Option (Element × List Piece)
  | [] => none
  | .doctype _ :: _ => none
  | .text c :: pieces =>
    readElement alphabet attributesOf insert (current.addText [c]) outer pieces
  | .section s :: pieces =>
    readElement alphabet attributesOf insert (current.addText s) outer pieces
  | .skipped _ :: pieces => readElement alphabet attributesOf insert current outer pieces
  | .reference body :: pieces =>
    match Reference.ofBody alphabet body with
    | none => none
    | some (.char c) =>
      readElement alphabet attributesOf insert (current.addText [c]) outer pieces
    | some (.entity name) =>
      match insert name with
      | none => none
      | some content =>
        readElement alphabet attributesOf insert (current.addContent content) outer pieces
  | .tag raw :: pieces =>
    match Tag.ofRaw alphabet raw with
    | none => none
    | some (.opening tag) =>
      match attributesOf tag with
      | none => none
      | some attributes =>
        let frame : Frame := ⟨tag.name, attributes, [], []⟩
        if tag.selfClosing then
          readElement alphabet attributesOf insert (current.addChild frame.finish) outer pieces
        else readElement alphabet attributesOf insert frame (current :: outer) pieces
    | some (.closing name) =>
      if name ≠ current.name then none
      else match outer with
        | [] => some (current.finish, pieces)
        | next :: rest =>
          readElement alphabet attributesOf insert (next.addChild current.finish) rest pieces

/-- The content that an entity stands for, as the content of an element without a name, if entities
nest at most `depth` deep. -/
def ofEntity (dtd : Dtd) (setting : Setting) : Nat → List Char → Option Element
  | 0, _ => none
  | depth + 1, name => do
    let replacement ← dtd.entities.lookup name
    let pieces ← Markup.content .standard (← replacement)
    let (content, rest) ← readElement .standard
      (dtd.attributesOf { setting with alphabet := .standard })
      (ofEntity dtd setting depth) ⟨[], [], [], []⟩ [] (pieces ++ [.tag ['/']])
    if rest.isEmpty then some content else none

/-- A piece that may stand outside the outermost element. -/
def isBlank : Piece → Bool
  | .text c => isSpace c
  | .skipped _ => true
  | _ => false

def elementAt (dtd : Dtd) (setting : Setting) (tag : OpeningTag) (pieces : List Piece) :
    Option (Element × List Piece) := do
  let attributes ← dtd.attributesOf setting tag
  let frame : Frame := ⟨tag.name, attributes, [], []⟩
  if tag.selfClosing then some (frame.finish, pieces)
  else
    let insert := ofEntity dtd setting dtd.entities.length
    readElement setting.alphabet (dtd.attributesOf setting) insert frame [] pieces

/-- The element that pieces start with; only blanks may follow it. -/
def rootOf (dtd : Dtd) (setting : Setting) : List Piece → Option Element
  | .tag raw :: pieces =>
    match Tag.ofRaw setting.alphabet raw with
    | some (.opening tag) => do
      let (root, rest) ← elementAt dtd setting tag pieces
      if rest.all isBlank then some root else none
    | _ => none
  | _ => none

/-- The root element of a document, from its pieces: blanks, a document type if there is one,
blanks, and the element.  Only a document type can make a document grow beyond bounds. -/
def ofPieces (setting : Setting) (isBounded : Dtd → Bool) (pieces : List Piece) :
    Option Element :=
  match pieces.dropWhile isBlank with
  | .doctype lexemes :: rest => do
    let source ← Doctype.Source.ofLexemes setting.alphabet lexemes
    let dtd ← Dtd.ofSource setting source
    if isBounded dtd then rootOf dtd setting (rest.dropWhile isBlank) else none
  | rest => rootOf Dtd.empty setting rest

end Content

end SqlFixtures.Xml
