import SqlFixtures.Xml.Declaration
import SqlFixtures.Xml.Doctype.Declaration
import SqlFixtures.Xml.Growth

/-!
# What a document type says

Of two declarations of one entity, or of one attribute of one element, the first counts.  An
external part and references to parameters are not followed; after such a reference, declarations
count no longer unless the document says that it stands alone.  A name that no known declaration
covers is an error where all declarations are known; in a value it is dropped where they are not.
-/

namespace SqlFixtures.Xml

def collapseSpaces (s : List Char) : List Char :=
  [' '].intercalate ((Text.fields ' ' s).filter (!·.isEmpty))

structure Setting where
  /-- The document says that nothing outside of it matters. -/
  standalone : Bool
  alphabet : Alphabet

structure AttributeDefault where
  element : List Char
  name : List Char
  tokenised : Bool
  standard : Option (List Char)

structure Dtd where
  entities : Entities
  attributes : List AttributeDefault
  /-- Some declarations are kept elsewhere. -/
  incomplete : Bool
  /-- Declarations still count. -/
  counting : Bool
  /-- The bytes that stood in for the references in each standard value that was read. -/
  grown : List Nat

namespace Dtd

/-- A name without a declaration is dropped from a value rather than refused. -/
def dropsUnknown (dtd : Dtd) (setting : Setting) : Bool := dtd.incomplete && !setting.standalone

def readValue (dtd : Dtd) (setting : Setting) (tokenised : Bool) (raw : List Char) :
    Option (List Char) :=
  (dtd.entities.value (dtd.dropsUnknown setting) setting.alphabet raw).map fun s =>
    if tokenised then collapseSpaces s else s

def addEntity (dtd : Dtd) (name : List Char) (text : Option (List Char)) : Dtd :=
  if (Reference.predefined.lookup name).isSome || (dtd.entities.lookup name).isSome then dtd
  else { dtd with entities := dtd.entities ++ [(name, text)] }

def findDefault (dtd : Dtd) (element name : List Char) : Option AttributeDefault :=
  dtd.attributes.find? fun d => d.element = element && d.name = name

/-- Counts what stands in for the references in a standard value. -/
def grow (dtd : Dtd) (raw : List Char) : Dtd :=
  let references := Growth.referencesIn raw
  let more :=
    if references.isEmpty then 0 else Growth.weigh (Growth.weightsOf dtd.entities) ⟨0, references⟩
  { dtd with grown := dtd.grown ++ [more] }

/-- A standard value is read when it is declared, even if an earlier declaration counts. -/
def addRule (setting : Setting) (element : List Char) (dtd : Dtd) (rule : Doctype.AttributeRule) :
    Option Dtd := do
  let dtd := match rule.standard with
    | none => dtd
    | some raw => dtd.grow raw
  let standard ← match rule.standard with
    | none => some none
    | some raw => (dtd.readValue setting rule.tokenised raw).map some
  if (dtd.findDefault element rule.name).isSome then some dtd
  else
    some { dtd with
      attributes := dtd.attributes ++ [⟨element, rule.name, rule.tokenised, standard⟩] }

def declare (setting : Setting) (dtd : Dtd) : Doctype.Declaration → Option Dtd
  | .parameterReference => some { dtd with incomplete := true, counting := setting.standalone }
  | declaration =>
    if !dtd.counting then some dtd
    else match declaration with
      | .entity name value => (Entities.replacement setting.alphabet value).map fun text =>
          dtd.addEntity name (some text)
      | .externalEntity name => some (dtd.addEntity name none)
      | .parameterEntity value => (Entities.replacement setting.alphabet value).map fun _ => dtd
      | .attributes element rules => rules.foldlM (addRule setting element) dtd
      | .inert => some dtd
      | .parameterReference => some dtd

def empty : Dtd := ⟨[], [], false, true, []⟩

def ofSource (setting : Setting) (source : Doctype.Source) : Option Dtd :=
  source.declarations.foldlM (declare setting) { empty with incomplete := source.external }

/-- The attributes that an element has: those of its tag, in order, then those that it does not
give and that have a standard value. -/
def attributesOf (dtd : Dtd) (setting : Setting) (tag : OpeningTag) :
    Option (List (List Char × List Char)) := do
  let given ← tag.attributes.mapM fun (name, raw) => do
    let tokenised := (dtd.findDefault tag.name name).any (·.tokenised)
    let value ← dtd.readValue setting tokenised raw
    some (name, value)
  let standard := dtd.attributes.filterMap fun d =>
    if d.element = tag.name && !(given.map (·.1)).contains d.name then
      d.standard.map fun value => (d.name, value)
    else none
  some (given ++ standard)

end Dtd

end SqlFixtures.Xml
