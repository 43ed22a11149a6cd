/-! The kinds of chunks that a module may hold. -/

namespace VmToolchain

/-- What a chunk holds. -/
inductive ChunkKind where
  | fileHeader
  | constantPool
  | jumpTable
  | instructions
  | stackFrames
  | globalVariablesMap
  | instructionPointers
deriving DecidableEq, Repr

namespace ChunkKind

/-- All kinds, in the order of their ids. -/
def all : List ChunkKind :=
  [.fileHeader, .constantPool, .jumpTable, .instructions, .stackFrames, .globalVariablesMap,
    .instructionPointers]

/-- The number that stands for the kind in a module file. -/
def id : ChunkKind → Nat
  | .fileHeader => 0
  | .constantPool => 1
  | .jumpTable => 2
  | .instructions => 3
  | .stackFrames => 4
  | .globalVariablesMap => 5
  | .instructionPointers => 6

/-- The kind with this number, if there is one. -/
def ofId? (id : Int) : Option ChunkKind :=
  all.find? (fun kind => (kind.id : Int) == id)

/-- The name shown in messages and listings. -/
def name : ChunkKind → String
  | .fileHeader => "FILE_HEADER"
  | .constantPool => "CONSTANT_POOL"
  | .jumpTable => "JUMP_TABLE"
  | .instructions => "INSTRUCTIONS"
  | .stackFrames => "STACK_FRAMES"
  | .globalVariablesMap => "GLOBAL_VARIABLES_MAP"
  | .instructionPointers => "INSTRUCTION_POINTERS"

/-- A letter of a kind's name as it may be written: in either case, and a hyphen for a line. -/
def normalizeChar (c : Char) : Char :=
  if c = '-' then '_' else c.toUpper

/-- The kind with this name, where case does not matter and hyphens may stand for lines. -/
def ofName? (name : String) : Option ChunkKind :=
  all.find? (fun kind => kind.name.toList == name.toList.map normalizeChar)

/-- Whether the chunk describes the file itself; it can only be the first. -/
def isHeader (kind : ChunkKind) : Bool :=
  kind == .fileHeader

end ChunkKind

end VmToolchain
