import VmToolchain.ModuleFile.Header

/-! Modules: chunks one after the other, each with its id, its length and its payload. -/

namespace VmToolchain

/-- A part of a module, of which only the kind is known here. -/
structure Chunk where
  kind : ChunkKind
  payload : List UInt8
deriving DecidableEq

/-- The chunks of a module file, in order. -/
structure ModuleFile where
  chunks : List Chunk
deriving DecidableEq

/-- The id and the length before each payload. -/
def Chunk.leadSize : Nat := 8

/-- The id, the length, the payload. -/
def Chunk.encode (chunk : Chunk) : List UInt8 :=
  bigEndian 4 chunk.kind.id ++ bigEndian 4 chunk.payload.length ++ chunk.payload

namespace ModuleFile

/-- The payload of the first chunk of this kind. -/
def payload? (file : ModuleFile) (kind : ChunkKind) : Option (List UInt8) :=
  (file.chunks.find? (fun chunk => chunk.kind == kind)).map Chunk.payload

/-- The header, if there is a header chunk; its payload may be unreadable. -/
def header? (file : ModuleFile) : Option (Except ModuleError FileHeader) :=
  (file.payload? .fileHeader).map FileHeader.decode

/-- The chunks one after the other. -/
def encode (file : ModuleFile) : List UInt8 :=
  file.chunks.flatMap Chunk.encode

end ModuleFile

end VmToolchain
