import SqlFixtures.Text.Fields
import SqlFixtures.Xml.Element

/-!
# Namespaces

An attribute `xmlns` or `xmlns:p` binds a prefix, for its element and everything inside, to the name
of a namespace.  A qualified name is written out as the name of its namespace in braces and the
local part; a tag without a prefix belongs to the namespace bound to no prefix, an attribute without
a prefix to none.
-/

namespace SqlFixtures.Xml.Namespace

/-- Bound prefixes, the innermost first.  No prefix is the empty one, and a prefix without a
namespace is bound to the empty name. -/
abbrev Scope := List (String × String)

def xmlName : String := "http://www.w3.org/XML/1998/namespace"

def bindingName : String := "http://www.w3.org/2000/xmlns/"

def outermost : Scope := [("xml", xmlName)]

def splitName (name : String) : String × String :=
  match Text.fields ':' name.toList with
  | [before, localPart] => (String.ofList before, String.ofList localPart)
  | _ => ("", name)

def boundBy (name : String) : Option String :=
  if name = "xmlns" then some ""
  else
    let (before, localPart) := splitName name
    if before = "xmlns" then some localPart else none

/-- Prefixes are not bound to nothing, the two reserved ones and their namespaces belong to each
other, and a namespace whose name holds a closing brace could not be written. -/
def mayBind (pre uri : String) : Bool :=
  (pre = "" || uri ≠ "") && pre ≠ "xmlns" && (pre = "xml") == (uri = xmlName) &&
    uri ≠ bindingName && !uri.toList.contains '\x7d'

def enter (scope : Scope) : List (String × String) → Option Scope
  | [] => some scope
  | (name, value) :: attributes =>
    match boundBy name with
    | none => enter scope attributes
    | some pre => if mayBind pre value then enter ((pre, value) :: scope) attributes else none

def written (uri localPart : String) : String := "\x7b" ++ uri ++ "\x7d" ++ localPart

def tagName (scope : Scope) (name : String) : Option String :=
  match splitName name, scope.lookup (splitName name).1 with
  | (_, localPart), some uri => if uri = "" then some localPart else some (written uri localPart)
  | (pre, localPart), none => if pre = "" then some localPart else none

def attributeName (scope : Scope) (name : String) : Option String :=
  let (pre, localPart) := splitName name
  if pre = "" then some name else (scope.lookup pre).map fun uri => written uri localPart

/-- The attributes that bind nothing, with their names written out. -/
def attributesIn (scope : Scope) (attributes : List (String × String)) :
    Option (List (String × String)) := do
  let named ← (attributes.filter fun a => (boundBy a.1).isNone).mapM fun a =>
    (attributeName scope a.1).map fun name => (name, a.2)
  if (named.map (·.1)).Nodup then some named else none

mutual

def resolveIn (scope : Scope) : Element → Option Element
  | ⟨tag, attributes, text, children⟩ => do
    let inner ← enter scope attributes
    let tag ← tagName inner tag
    let attributes ← attributesIn inner attributes
    let children ← resolveAll inner children
    some ⟨tag, attributes, text, children⟩

def resolveAll (scope : Scope) : List Element → Option (List Element)
  | [] => some []
  | e :: es => do
    let e ← resolveIn scope e
    let es ← resolveAll scope es
    some (e :: es)

end

def resolve (root : Element) : Option Element := resolveIn outermost root

end SqlFixtures.Xml.Namespace
