/-! Big-endian numbers, and reading a byte string from a position onwards. -/

namespace VmToolchain

/-- The lowest bytes of a number, the most significant first. -/
def bigEndian : (width : Nat) → (value : Nat) → List UInt8
  | 0, _ => []
  | width + 1, value => bigEndian width (value / 256) ++ [(value % 256).toUInt8]

/-- The number with these bytes, the most significant first. -/
def ofBigEndian (bytes : List UInt8) : Nat :=
  bytes.foldl (fun value byte => 256 * value + byte.toNat) 0

/-- The integer that a number of 32 bits stands for in two's complement. -/
def signed32 (value : Nat) : Int :=
  if value < 0x80000000 then value else value - 0x100000000

/-- A request for more bytes than are left. -/
structure Shortfall where
  offset : Nat
  needed : Nat
  available : Nat
deriving DecidableEq, Repr

/-- The request and what is there, for messages. -/
def Shortfall.message (shortfall : Shortfall) : String :=
  "offset " ++ shortfall.offset.repr ++ ": need " ++ shortfall.needed.repr ++ " bytes, "
    ++ shortfall.available.repr ++ " available"

/-- A position in a byte string, with the bytes from there on. -/
structure Cursor where
  offset : Nat
  rest : List UInt8
deriving DecidableEq

namespace Cursor

/-- The position before the first byte. -/
def start (bytes : List UInt8) : Cursor :=
  ⟨0, bytes⟩

/-- The next bytes, if there are that many. -/
def take (cursor : Cursor) (count : Nat) : Except Shortfall (List UInt8 × Cursor) :=
  let taken := cursor.rest.take count
  if taken.length = count then .ok (taken, ⟨cursor.offset + count, cursor.rest.drop count⟩)
  else .error ⟨cursor.offset, count, cursor.rest.length⟩

/-- Taken bytes are no longer among the rest. -/
theorem take_length {cursor next : Cursor} {count : Nat} {taken : List UInt8}
    (h : cursor.take count = .ok (taken, next))
    : next.rest.length + count = cursor.rest.length := by
  simp only [take] at h
  split at h
  · next hl =>
      cases h
      simp only [List.length_take] at hl
      simp only [List.length_drop]
      omega
  · contradiction

end Cursor

end VmToolchain
