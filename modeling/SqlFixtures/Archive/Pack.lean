import SqlFixtures.Archive.Entry

/-!
# Packing an archive

Entries are packed as they are, one after the other, and the directory lists them in that order.
A name may be packed more than once.
-/

namespace SqlFixtures.Archive

structure Item where
  name : List UInt8
  content : List UInt8

def Item.ofText (name content : String) : Item := ⟨name.toUTF8.toList, content.toUTF8.toList⟩

def utf8Flag : Nat := 0x800

/-- The fields that a header and a directory record share: version, flags, method, date, checksum,
sizes, and the lengths of the name and the extra field. -/
def sharedFields (item : Item) : List UInt8 :=
  bytesOf 2 20 ++ bytesOf 2 utf8Flag ++ bytesOf 2 0 ++ bytesOf 4 0x210000 ++
    bytesOf 4 (checksum item.content).toNat ++ bytesOf 4 item.content.length ++
    bytesOf 4 item.content.length ++ bytesOf 2 item.name.length ++ bytesOf 2 0

def packItem (item : Item) : List UInt8 :=
  headerMark ++ sharedFields item ++ item.name ++ item.content

def packRecord (position : Nat) (item : Item) : List UInt8 :=
  directoryMark ++ bytesOf 2 20 ++ sharedFields item ++ bytesOf 2 0 ++ bytesOf 2 0 ++
    bytesOf 2 0 ++ bytesOf 4 0 ++ bytesOf 4 position ++ item.name

/-- The directory of items of which the first begins at `position`. -/
def packDirectory : Nat → List Item → List UInt8
  | _, [] => []
  | position, item :: items =>
    packRecord position item ++ packDirectory (position + (packItem item).length) items

def packEnd (items : List Item) (directorySize directoryPlace : Nat) : List UInt8 :=
  endMark ++ bytesOf 2 0 ++ bytesOf 2 0 ++ bytesOf 2 items.length ++ bytesOf 2 items.length ++
    bytesOf 4 directorySize ++ bytesOf 4 directoryPlace ++ bytesOf 2 0

def pack (items : List Item) : List UInt8 :=
  let packed := items.flatMap packItem
  let directory := packDirectory 0 items
  packed ++ directory ++ packEnd items directory.length packed.length

end SqlFixtures.Archive
