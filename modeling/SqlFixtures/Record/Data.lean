import SqlFixtures.Record.Node
import SqlFixtures.Record.Problem

/-!
# Data of a record

Records are made from data whose shape is not known yet.  A field is given under its key; some
fields have a second key, which counts only when the first is absent.  A key that gives no field is
a problem of the record, reported after those of the fields.
-/

namespace SqlFixtures.Record

inductive Data where
  | null
  | bool (b : Bool)
  | int (i : Int)
  | float (x : Float)
  | text (s : String)
  | list (items : List Data)
  | record (fields : List (String × Data))
  /-- An element that was read already. -/
  | node (node : Node)
  deriving Inhabited

abbrev Fields := List (String × Data)

/-- The keys that a field goes by, the preferred one first. -/
structure Key where
  name : String
  alternative : Option String

def Key.only (name : String) : Key := ⟨name, none⟩

def Key.used (key : Key) (fields : Fields) : String :=
  match key.alternative with
  | none => key.name
  | some other => if (fields.lookup key.name).isSome then key.name else other

def required {α : Type} (fields : Fields) (key : Key) (read : Data → Checked α) : Checked α :=
  match fields.lookup (key.used fields) with
  | some data => (read data).under (.field (key.used fields))
  | none => .invalid [⟨.missing, [.field key.name]⟩]

def optional {α : Type} (fields : Fields) (key : Key) (absent : α) (read : Data → Checked α) :
    Checked α :=
  match fields.lookup (key.used fields) with
  | some data => (read data).under (.field (key.used fields))
  | none => .valid absent

/-- Reports every key that gives none of the known fields. -/
def noOthers (fields : Fields) (known : List Key) : Checked Unit :=
  match (fields.map (·.1)).filter fun name => !(known.map (·.used fields)).contains name with
  | [] => .valid ()
  | others => .invalid (others.map fun name => ⟨.unknownField, [.field name]⟩)

def readText : Data → Checked String
  | .text s => .valid s
  | _ => .fail .notText

def readNonemptyText : Data → Checked String
  | .text s => if s.isEmpty then .fail .emptyText else .valid s
  | _ => .fail .notText

/-- Something that may also be given as nothing. -/
def orNull {α : Type} (read : Data → Checked α) : Data → Checked (Option α)
  | .null => .valid none
  | data => (read data).map some

def readItems {α : Type} (read : Data → Checked α) : Nat → List Data → Checked (List α)
  | _, [] => .valid []
  | i, item :: items =>
    .apply (((read item).under (.index i)).map List.cons) (readItems read (i + 1) items)

def readList {α : Type} (read : Data → Checked α) : Data → Checked (List α)
  | .list items => readItems read 0 items
  | _ => .fail .notList

def readRecord {α : Type} (read : Fields → Checked α) : Data → Checked α
  | .record fields => read fields
  | _ => .fail .notRecord

end SqlFixtures.Record
