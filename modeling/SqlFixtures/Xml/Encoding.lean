import SqlFixtures.Text.Codepages
import SqlFixtures.Text.EncodingFault
import SqlFixtures.Text.Fields
import SqlFixtures.Xml.Charset

/-!
# Encodings of a document

The first bytes of a document tell how wide its code units are: a byte order mark says it outright,
and a zero among the first two bytes shows units of two bytes.  Units of two bytes are UTF-16; units
of one byte are UTF-8.  A declaration may name another encoding.  One of the common encodings has to
agree with the width of the units; a code page holds for all that follows the declaration, whatever
the declaration itself was written in.
-/

namespace SqlFixtures.Xml

inductive Fault where
  | malformed
  | encoding (fault : Text.EncodingFault)
  deriving Repr, DecidableEq

/-- The width of the code units, and the order of bytes within a wide one. -/
inductive Width where
  | byte
  | wide (bigEndian : Bool)
  deriving Repr, DecidableEq

/-- The width of a document's code units, and the document without its byte order mark. -/
def Width.detect : List UInt8 → Width × List UInt8
  | 0xFE :: 0xFF :: rest => (wide true, rest)
  | 0xFF :: 0xFE :: rest => (wide false, rest)
  | 0xEF :: 0xBB :: 0xBF :: rest => (byte, rest)
  | 0 :: rest => (wide true, 0 :: rest)
  | b :: 0 :: rest => (wide false, b :: 0 :: rest)
  | bytes => (byte, bytes)

def Width.size : Width → Nat
  | byte => 1
  | wide _ => 2

def unitOf (bigEndian : Bool) (a b : UInt8) : Nat :=
  if bigEndian then a.toNat * 256 + b.toNat else b.toNat * 256 + a.toNat

/-- The code units of two bytes.  A byte left over at the end makes no unit. -/
def wideUnits (bigEndian : Bool) : List UInt8 → Option (List Nat)
  | [] => some []
  | [_] => none
  | a :: b :: rest => (wideUnits bigEndian rest).map (unitOf bigEndian a b :: ·)

/-- Every code unit as the character of its number, whatever the encoding.  A declaration is
written in characters for which this is right. -/
def Width.view : Width → List UInt8 → List Char
  | byte, bytes => bytes.map fun b => Char.ofNat b.toNat
  | wide bigEndian, a :: b :: rest =>
    Char.ofNat (unitOf bigEndian a b) :: view (wide bigEndian) rest
  | wide _, _ => []

inductive Encoding where
  | utf8
  | utf16 (bigEndian : Bool)
  | latin
  | ascii
  | codepage (page : Text.Codepage)

namespace Encoding

def wordsOfName (name : String) : String :=
  let chars := name.toLower.toList.map fun c => if c.isAlphanum || c = '.' then c else '_'
  String.intercalate "_" (((Text.fields '_' chars).filter (!·.isEmpty)).map String.ofList)

/-- A full stop counts as an underscore, except in the few names that are written with one, and in
those that nothing may stand for. -/
def normalName? (name : String) : Option String :=
  let words := wordsOfName name
  if Text.dottedNames.contains words || !words.toList.contains '.' then some words
  else
    some (String.ofList (words.toList.map fun c => if c = '.' then '_' else c)) |>.filter fun n =>
      !Text.undottedNames.contains n

def faultOf? (name normal : String) : Option Fault :=
  if Text.incompatibleNames.contains normal then some .malformed
  else if Text.multiByteNames.contains normal then some (.encoding .multiByte)
  else if Text.transformNames.contains normal then some (.encoding (.notText name))
  else if normal = "idna" then
    some (.encoding (.refused name "Unsupported error handling replace"))
  else if normal = "undefined" then some (.encoding (.refused name "undefined encoding"))
  else if normal = "punycode" then
    some (.encoding (.undecodable ⟨"ascii", 0x80, 82, 1, "ordinal not in range(128)"⟩))
  else none

def ofCodepageName (name : String) : Except Fault Encoding :=
  let unknown := Fault.encoding (.unknown name)
  match normalName? name with
  | none => .error unknown
  | some normal =>
    match Text.Codepage.ofName? normal with
    | some page => .ok (codepage page)
    | none => .error ((faultOf? name normal).getD unknown)

def ofWidth : Width → Encoding
  | .byte => utf8
  | .wide bigEndian => utf16 bigEndian

def commonNames : List String :=
  ["utf-8", "iso-8859-1", "us-ascii", "utf-16", "utf-16be", "utf-16le"]

def choose (width : Width) : Option String → Except Fault Encoding
  | none => .ok (ofWidth width)
  | some name =>
    match name.toLower, width with
    | "utf-8", .byte => .ok utf8
    | "iso-8859-1", .byte => .ok latin
    | "us-ascii", .byte => .ok ascii
    | "utf-16", .wide bigEndian => .ok (utf16 bigEndian)
    | "utf-16be", .wide true => .ok (utf16 true)
    | "utf-16le", .wide false => .ok (utf16 false)
    | lower, _ =>
      if commonNames.contains lower then .error .malformed else ofCodepageName name

/-- Of a surrogate pair only the first half is checked. -/
def decodeUnits : List Nat → Option (List Char)
  | [] => some []
  | u :: rest =>
    if 0xD800 ≤ u ∧ u < 0xDC00 then
      match rest with
      | [] => none
      | v :: after =>
        (decodeUnits after).map (Char.ofNat (0x10000 + (u - 0xD800) * 0x400 + v % 0x400) :: ·)
    else if 0xDC00 ≤ u ∧ u < 0xE000 then none
    else (decodeUnits rest).map (Char.ofNat u :: ·)

def decode : Encoding → List UInt8 → Option (List Char)
  | utf8, bytes => (String.fromUTF8? ⟨bytes.toArray⟩).map String.toList
  | utf16 bigEndian, bytes => (wideUnits bigEndian bytes).bind decodeUnits
  | latin, bytes => Text.Codepage.latin.decode bytes
  | ascii, bytes => Text.Codepage.ascii.decode bytes
  | codepage page, bytes => page.decode bytes

def alphabet : Encoding → Alphabet
  | utf16 _ | latin => .latin
  | utf8 | ascii | codepage _ => .standard

def size : Encoding → Char → Nat
  | utf8, c => c.utf8Size
  | utf16 _, c => if c.toNat < 0x10000 then 2 else 4
  | latin, _ | ascii, _ | codepage _, _ => 1

end Encoding

end SqlFixtures.Xml
