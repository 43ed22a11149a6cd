import VmToolchain.ModuleFile.Basic

/-! Building a module: chunks in the order in which they are added, the header first. -/

namespace VmToolchain

/-- The header's payload, if there is one, and the other chunks. -/
structure ModuleBuilder where
  header? : Option (List UInt8)
  chunks : List Chunk

/-- Work on a builder, which is changed in place. Work that fails gives an error, and the builder
stays as it has become by then.
-/
abbrev Building (ε α : Type) := ExceptT ε (StateM ModuleBuilder) α

/-- The answer of the work done on a builder, and what it makes of the builder. -/
def Building.runOn {ε α : Type} (work : Building ε α) (builder : ModuleBuilder)
    : Except ε α × ModuleBuilder :=
  work.run.run builder

namespace ModuleBuilder

/-- Starts with the current header. -/
def new : ModuleBuilder :=
  ⟨some FileHeader.current.encode, []⟩

/-- Starts without a header. -/
def headerless : ModuleBuilder :=
  ⟨none, []⟩

/-- Whether there is a chunk of this kind. -/
def contains (builder : ModuleBuilder) (kind : ChunkKind) : Bool :=
  if kind.isHeader then builder.header?.isSome
  else builder.chunks.any (fun chunk => chunk.kind == kind)

/-- Adds a chunk of a kind that is not there yet. -/
def push (kind : ChunkKind) (payload : List UInt8) : Building ModuleError Unit :=
  if maxPayload < payload.length then throw (.payloadTooLarge payload.length)
  else do
    if (← get).contains kind then throw (.duplicateChunk kind)
    else if kind.isHeader then modify fun builder => { builder with header? := some payload }
    else modify fun builder => { builder with chunks := builder.chunks ++ [⟨kind, payload⟩] }

/-- Puts a header in the place of any other. -/
def setHeader (builder : ModuleBuilder) (header : FileHeader) : ModuleBuilder :=
  { builder with header? := some header.encode }

/-- The module: the header, then the other chunks. -/
def finish (builder : ModuleBuilder) : ModuleFile :=
  ⟨(builder.header?.map (Chunk.mk .fileHeader)).toList ++ builder.chunks⟩

end ModuleBuilder

end VmToolchain
