import SqlFixtures.Text.Undecodable

/-!
# Unusable encodings

A document may name an encoding that cannot be used: one that nobody knows, one that does not yield
text, one that needs several bytes for a character, or one that refuses to read at all.
-/

namespace SqlFixtures.Text

inductive EncodingFault where
  | unknown (name : String)
  | notText (name : String)
  | multiByte
  | undecodable (fault : Undecodable)
  | refused (name reason : String)
  deriving Repr, DecidableEq

def EncodingFault.message : EncodingFault → String
  | unknown name => s!"unknown encoding: {name}"
  | notText name =>
    s!"'{name}' is not a text encoding; use codecs.decode() to handle arbitrary codecs"
  | multiByte => "multi-byte encodings are not supported"
  | undecodable fault => fault.message
  | refused name reason => s!"decoding with '{name}' codec failed (UnicodeError: {reason})"

end SqlFixtures.Text
