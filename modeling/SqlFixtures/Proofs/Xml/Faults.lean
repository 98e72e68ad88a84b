import SqlFixtures.Proofs.Results
import SqlFixtures.Xml.Document
import Mathlib.Tactic

/-!
# Faults of documents

A document that cannot be read is malformed, unless its declaration can be read and names an
encoding that cannot be used.  That encoding is the first thing that is looked at after the
declaration, so nothing in the rest of the document can hide it.
-/

namespace SqlFixtures.Xml

open Text (EncodingFault)

/-- The encoding that a document names, if its declaration can be read and names one. -/
def declaredEncoding? (bytes : List UInt8) : Option String :=
  let (width, units) := Width.detect bytes
  (Declaration.read (width.view units)).bind fun read => read.1.encoding

def DeclaresUnusable (bytes : List UInt8) (fault : EncodingFault) : Prop :=
  ∃ name, declaredEncoding? bytes = some name ∧
    Encoding.choose (Width.detect bytes).1 (some name) = .error (.encoding fault)

variable {bytes : List UInt8} {fault : EncodingFault}

theorem ofBytes_eq_encoding_error_iff :
    Script.ofBytes false bytes = .error (.encoding fault) ↔ DeclaresUnusable bytes fault := by
  unfold Script.ofBytes DeclaresUnusable declaredEncoding?
  generalize Width.detect bytes = detected
  obtain ⟨width, units⟩ := detected
  cases hread : Declaration.read (width.view units) with
  | none => simp [hread]
  | some read =>
      obtain ⟨declaration, taken⟩ := read
      simp only [hread, Option.bind_some, Bool.false_eq_true, if_false, Results.bind_eq_error_iff]
      -- Once an encoding is chosen, the rest of the document can only be malformed.
      rw [or_iff_left]
      · cases declaration.encoding with
        | none => simp [Encoding.choose]
        | some name => simp
      · rintro ⟨encoding, -, hrest⟩
        split at hrest
        · split at hrest <;> cases hrest
        · cases hrest

theorem parse_eq_encoding_error_iff :
    parse bytes = .error (.encoding fault) ↔ DeclaresUnusable bytes fault := by
  rw [← ofBytes_eq_encoding_error_iff, parse, parseAs, Results.bind_eq_error_iff, or_iff_left]
  rintro ⟨script, -, hroot⟩
  split at hroot <;> cases hroot

end SqlFixtures.Xml
