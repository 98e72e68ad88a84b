import SqlFixtures.Text.Quoted

/-!
# Undecodable bytes

Bytes that an encoding gives no meaning are reported with their place and the reason.  A single byte
is shown; of several bytes only the first and the last place are told.
-/

namespace SqlFixtures.Text

structure Undecodable where
  encoding : String
  /-- The byte at fault, or the first of several. -/
  byte : UInt8
  position : Nat
  /-- How many bytes are at fault. -/
  count : Nat
  reason : String
  deriving Repr, DecidableEq

def Undecodable.message (fault : Undecodable) : String :=
  let place :=
    if fault.count = 1 then
      "byte 0x" ++ String.ofList (hexDigits 2 fault.byte.toNat) ++ s!" in position {fault.position}"
    else s!"bytes in position {fault.position}-{fault.position + fault.count - 1}"
  s!"'{fault.encoding}' codec can't decode " ++ place ++ ": " ++ fault.reason

end SqlFixtures.Text
