import VmToolchain.Bytes
import VmToolchain.File
import VmToolchain.ModuleFile.ChunkKind

/-! Why a module cannot be read, built or written. -/

namespace VmToolchain

/-- A fault of a module, or of the file that holds it. -/
inductive ModuleError where
  | unknownChunk (id : Int)
  | truncated (shortfall : Shortfall)
  | negativeLength (offset : Nat) (length : Int)
  | payloadTooLarge (size : Nat)
  | duplicateChunk (kind : ChunkKind)
  | headerNotFirst
  | headerSize (size : Nat)
  | invalidMagic
  | unsupportedVersion (version : UInt32)
  | file (error : FileError)
deriving DecidableEq, Repr

/-- The largest payload, whose length is still a positive number of 32 bits. -/
def maxPayload : Nat := 2147483647

/-- The message shown for the error. -/
def ModuleError.message : ModuleError → String
  | .unknownChunk id => "unknown chunk type id " ++ id.repr
  | .truncated shortfall => "truncated chunk at " ++ shortfall.message
  | .negativeLength offset length =>
      "negative chunk length " ++ length.repr ++ " at offset " ++ offset.repr
  | .payloadTooLarge size =>
      "chunk payload too large: " ++ size.repr ++ " bytes (max " ++ maxPayload.repr ++ ")"
  | .duplicateChunk kind => "duplicate " ++ kind.name ++ " chunk"
  | .headerNotFirst => "FILE_HEADER must be the first chunk"
  | .headerSize size => "file header is " ++ size.repr ++ " bytes (expected 8)"
  | .invalidMagic => "invalid magic: expected SVMB"
  | .unsupportedVersion version =>
      "unsupported version: " ++ version.toNat.repr ++ " (expected 1)"
  | .file error => "io error: " ++ error.message

end VmToolchain
