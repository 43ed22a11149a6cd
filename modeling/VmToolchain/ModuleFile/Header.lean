import VmToolchain.ModuleFile.Error

/-! The file header, which is the payload of a module's first chunk. -/

namespace VmToolchain

/-- The mark of the format and its version. -/
structure FileHeader where
  magic : Vector UInt8 4
  version : UInt32
deriving DecidableEq

namespace FileHeader

/-- The letters SVMB. -/
def expectedMagic : Vector UInt8 4 := #v[0x53, 0x56, 0x4d, 0x42]

def currentVersion : UInt32 := 1

/-- The number of bytes of a header. -/
def size : Nat := 8

/-- The header of a module made here. -/
def current : FileHeader := ⟨expectedMagic, currentVersion⟩

/-- The magic, then the version. -/
def encode (header : FileHeader) : List UInt8 :=
  header.magic.toList ++ bigEndian 4 header.version.toNat

/-- Reads a payload as a header: its size is checked first, then the magic, then the version. What
passes is the current header.
-/
def decode (payload : List UInt8) : Except ModuleError FileHeader :=
  if payload.length ≠ size then .error (.headerSize payload.length)
  else if payload.take 4 ≠ expectedMagic.toList then .error .invalidMagic
  else
    let version := (ofBigEndian (payload.drop 4)).toUInt32
    if version ≠ currentVersion then .error (.unsupportedVersion version)
    else .ok current

end FileHeader

end VmToolchain
