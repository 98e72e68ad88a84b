import SqlFixtures.Text.Undecodable

/-!
# UTF-8

A character beyond ASCII is written in a leading byte and one to three bytes that continue it.  For
some leading bytes the first of those is restricted, so that no character has two spellings and no
half of a surrogate pair has any.  Bytes that are at fault begin with the leading byte and go up to
the first one that cannot continue it.
-/

namespace SqlFixtures.Text.Utf8

structure Pending where
  lead : UInt8
  position : Nat
  /-- How many bytes were read, and how many are still to come. -/
  taken : Nat
  missing : Nat
  /-- Between what the next byte has to be. -/
  low : UInt8
  high : UInt8
  bits : Nat
  deriving Repr, DecidableEq

def start? (position : Nat) (b : UInt8) : Option Pending :=
  let asking (missing : Nat) (low high : UInt8) (least : UInt8) : Option Pending :=
    some ⟨b, position, 1, missing, low, high, (b - least).toNat⟩
  if b < 0xC2 then none
  else if b < 0xE0 then asking 1 0x80 0xBF 0xC0
  else if b = 0xE0 then asking 2 0xA0 0xBF 0xE0
  else if b = 0xED then asking 2 0x80 0x9F 0xE0
  else if b < 0xF0 then asking 2 0x80 0xBF 0xE0
  else if b = 0xF0 then asking 3 0x90 0xBF 0xF0
  else if b < 0xF4 then asking 3 0x80 0xBF 0xF0
  else if b = 0xF4 then asking 3 0x80 0x8F 0xF0
  else none

def Pending.next (pending : Pending) (b : UInt8) : Pending :=
  { pending with
    taken := pending.taken + 1
    missing := pending.missing - 1
    low := 0x80
    high := 0xBF
    bits := pending.bits * 64 + (b - 0x80).toNat }

def Pending.fault (pending : Pending) (reason : String) : Undecodable :=
  ⟨"utf-8", pending.lead, pending.position, pending.taken, reason⟩

/-- Reads the bytes from a position on, possibly inside a character. -/
def decodeFrom : Nat → Option Pending → List UInt8 → Except Undecodable (List Char)
  | _, none, [] => .ok []
  | _, some pending, [] => .error (pending.fault "unexpected end of data")
  | position, none, b :: rest =>
    if b < 0x80 then (decodeFrom (position + 1) none rest).map (Char.ofNat b.toNat :: ·)
    else
      match start? position b with
      | some pending => decodeFrom (position + 1) (some pending) rest
      | none => .error ⟨"utf-8", b, position, 1, "invalid start byte"⟩
  | position, some pending, b :: rest =>
    if pending.low ≤ b ∧ b ≤ pending.high then
      let next := pending.next b
      if next.missing = 0 then
        (decodeFrom (position + 1) none rest).map (Char.ofNat next.bits :: ·)
      else decodeFrom (position + 1) (some next) rest
    else .error (pending.fault "invalid continuation byte")

def decode (bytes : List UInt8) : Except Undecodable (List Char) := decodeFrom 0 none bytes

end SqlFixtures.Text.Utf8
