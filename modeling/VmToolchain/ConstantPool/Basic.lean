import VmToolchain.Bytes
import VmToolchain.ModuleFile.Basic
import VmToolchain.Value

/-! Constant pools: constants by position, and the layout of a pool as a chunk's payload. -/

namespace VmToolchain

/-- Constants, of which the position is the id. -/
structure ConstantPool where
  constants : Array Constant
deriving DecidableEq

/-- Why a payload is no constant pool. -/
inductive PoolError where
  | truncated (shortfall : Shortfall)
  | unknownTag (tag : UInt8) (offset : Nat)
  | invalidUtf8 (offset : Nat)
  | trailingBytes (count : Nat)
deriving DecidableEq, Repr

/-- The message shown for the error. -/
def PoolError.message : PoolError → String
  | .truncated shortfall => "truncated constant pool at " ++ shortfall.message
  | .unknownTag tag offset =>
      "unknown constant tag " ++ tag.toNat.repr ++ " at offset " ++ offset.repr
  | .invalidUtf8 offset => "invalid UTF-8 in string constant at offset " ++ offset.repr
  | .trailingBytes count => count.repr ++ " trailing bytes after constant pool"

namespace Constant

/-- The tag before an integer. -/
def intTag : UInt8 := 0

/-- The tag before a string. -/
def strTag : UInt8 := 1

/-- An integer's eight bytes, or a string's length and UTF-8 bytes, behind the tag. -/
def encode : Constant → List UInt8
  | .int value => intTag :: bigEndian 8 value.toUInt64.toNat
  | .str value =>
      strTag :: bigEndian 4 value.toByteArray.size ++ value.toByteArray.data.toList

/-- The number of bytes of a constant in a pool, its tag included. -/
def encodedSize : Constant → Nat
  | .int _ => 1 + 8
  | .str value => 1 + 4 + value.toByteArray.size

/-- The next constant and the position behind it. -/
def read (cursor : Cursor) : Except PoolError (Constant × Cursor) := do
  let (tag, body) ← (cursor.take 1).mapError .truncated
  let tag := (ofBigEndian tag).toUInt8
  if tag = intTag then
    let (bytes, next) ← (body.take 8).mapError .truncated
    return (.int (ofBigEndian bytes).toUInt64.toInt64, next)
  else if tag = strTag then
    let (length, text) ← (body.take 4).mapError .truncated
    let (bytes, next) ← (text.take (ofBigEndian length)).mapError .truncated
    match String.fromUTF8? bytes.toByteArray with
    | some value => return (.str value, next)
    | none => .error (.invalidUtf8 text.offset)
  else .error (.unknownTag tag cursor.offset)

/-- The text by which a constant is referred to. -/
def idText (id : Nat) : String :=
  "#" ++ id.repr

end Constant

namespace ConstantPool

def empty : ConstantPool := ⟨#[]⟩

def size (pool : ConstantPool) : Nat :=
  pool.constants.size

/-- The constant with this id. -/
def get? (pool : ConstantPool) (id : Nat) : Option Constant :=
  pool.constants[id]?

/-- The number of constants, then the constants. -/
def encode (constants : List Constant) : List UInt8 :=
  bigEndian 4 constants.length ++ constants.flatMap Constant.encode

/-- The number of bytes of a pool, with the four of the count. -/
def encodedSize (constants : List Constant) : Nat :=
  constants.foldr (fun constant size => constant.encodedSize + size) 4

/-- Reads this many constants behind those already read. -/
def readConstants : Nat → Array Constant → Cursor → Except PoolError (Array Constant × Cursor)
  | 0, constants, cursor => .ok (constants, cursor)
  | count + 1, constants, cursor =>
      match Constant.read cursor with
      | .error error => .error error
      | .ok (constant, next) => readConstants count (constants.push constant) next

/-- The pool that the payload lays out, with nothing behind it. -/
def decode (payload : List UInt8) : Except PoolError ConstantPool := do
  let (count, body) ← ((Cursor.start payload).take 4).mapError .truncated
  let (constants, rest) ← readConstants (ofBigEndian count) #[] body
  if rest.rest.isEmpty then return ⟨constants⟩
  else .error (.trailingBytes rest.rest.length)

/-- The pool of a module, which is empty if there is no chunk for it. -/
def ofModule (file : ModuleFile) : Except PoolError ConstantPool :=
  match file.payload? .constantPool with
  | none => .ok empty
  | some payload => decode payload

end ConstantPool

end VmToolchain
