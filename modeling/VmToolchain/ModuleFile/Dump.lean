import VmToolchain.ModuleFile.Basic
import VmToolchain.Palette
import VmToolchain.Text.Basic

/-! Listings of modules. -/

namespace VmToolchain

/-- The number of bytes of a payload that a listing shows. -/
def Chunk.previewSize : Nat := 16

/-- The first bytes of the payload in hexadecimal, and three points if there are more. -/
def Chunk.preview (chunk : Chunk) : String :=
  " ".intercalate ((chunk.payload.take previewSize).map (fun b => String.ofList (Text.hexByte b)))
    ++ (if previewSize < chunk.payload.length then " ..." else "")

/-- The line for the chunk at a position: the position, the kind, the payload's length and its first
bytes.
-/
def Chunk.dumpLine (palette : Palette) (indexWidth index : Nat) (chunk : Chunk) : String :=
  Text.padLeft '0' indexWidth index.repr ++ " "
    ++ palette.kind (Text.padRight 20 chunk.kind.name) ++ " "
    ++ Text.padLeft ' ' 5 chunk.payload.length.repr
    ++ (if chunk.payload.isEmpty then "" else "  " ++ palette.muted chunk.preview)
    ++ "\n"

namespace ModuleFile

/-- The section for the header, if there is a header chunk. -/
def dumpHeader (palette : Palette) (file : ModuleFile) : String :=
  match file.header? with
  | none => ""
  | some header =>
      palette.kind "[header]" ++ "\n"
        ++ (match header with
            | .error error => palette.muted ("unreadable: " ++ error.message) ++ "\n"
            | .ok header =>
                let magic := String.ofList (header.magic.toList.map Char.ofUInt8)
                "magic   = " ++ palette.value (Text.quoted magic) ++ "\n"
                  ++ "version = " ++ palette.value header.version.toNat.repr ++ "\n")
        ++ "\n"

/-- The listing of a module: its header, then one line for each chunk. -/
def dump (palette : Palette) (file : ModuleFile) : String :=
  let indexWidth := (file.chunks.length - 1).repr.length
  file.dumpHeader palette
    ++ palette.kind "[chunks]" ++ "\n"
    ++ String.join (file.chunks.zipIdx.map
        (fun (chunk, index) => chunk.dumpLine palette indexWidth index))

end ModuleFile

end VmToolchain
