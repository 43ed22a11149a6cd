import VmToolchain.Evaluation
import VmToolchain.ModuleFile.Decoding
import VmToolchain.Trace.Printer

/-! The commands and their options. -/

namespace VmToolchain

/-- When output is coloured. -/
inductive ColorChoice where
  | auto
  | always
  | never
deriving DecidableEq, Repr

namespace ColorChoice

def ofName? (name : String) : Option ColorChoice :=
  match name with
  | "auto" => some .auto
  | "always" => some .always
  | "never" => some .never
  | _ => none

/-- The colours for output that may go to a terminal; by default, colours are for terminals. -/
def palette (choice : ColorChoice) (terminal : Bool) : Palette :=
  match choice with
  | .auto => ⟨terminal⟩
  | .always => .colored
  | .never => .plain

end ColorChoice

/-- A chunk to be made of a file's contents. -/
structure ChunkSpec where
  kind : ChunkKind
  path : String
deriving DecidableEq, Repr

/-- Why a text does not name a chunk and its file. -/
inductive ChunkSpecError where
  | noSeparator (text : String)
  | unknownKind (name : String)
  | missingPath (kind : ChunkKind)
deriving DecidableEq, Repr

/-- The message shown for the error. -/
def ChunkSpecError.message : ChunkSpecError → String
  | .noSeparator text => "expected KIND=PATH, got '" ++ text ++ "'"
  | .unknownKind name =>
      "unknown chunk kind '" ++ name ++ "' (expected one of "
        ++ ", ".intercalate (ChunkKind.all.map ChunkKind.name) ++ ")"
  | .missingPath kind => "missing payload path for " ++ kind.name

/-- Reads a kind's name and a path with an equals sign between them. Further signs belong to the
path.
-/
def ChunkSpec.parse (text : String) : Except ChunkSpecError ChunkSpec :=
  match text.toList.dropWhile (· != '=') with
  | [] => .error (.noSeparator text)
  | _ :: path =>
      let name := String.ofList (text.toList.takeWhile (· != '='))
      match ChunkKind.ofName? name with
      | none => .error (.unknownKind name)
      | some kind =>
          if path.isEmpty then .error (.missingPath kind)
          else .ok ⟨kind, String.ofList path⟩

/-- The file to show, and how. -/
structure DumpOptions where
  path : String
  unknown : UnknownChunks
  color : ColorChoice
deriving DecidableEq, Repr

/-- The file to make, the chunks to put into it, and whether it starts with a header. -/
structure PackOptions where
  output : String
  chunks : List ChunkSpec
  header : Bool
deriving DecidableEq, Repr

/-- The file with the expression, how it is folded, and the file for its constants. -/
structure FoldOptions where
  path : String
  policy : Policy
  /-- How often more detail was asked for. -/
  verbose : Nat
  output? : Option String
  color : ColorChoice
deriving DecidableEq, Repr

/-- Asked for once, applications are traced; asked for again, everything is. -/
def FoldOptions.verbosity? (options : FoldOptions) : Option Verbosity :=
  match options.verbose with
  | 0 => none
  | 1 => some .default
  | _ => some .verbose

/-- A command with its options. -/
inductive Command where
  /-- Shows a module file. -/
  | dump (options : DumpOptions)
  /-- Makes a module file of payload files. -/
  | pack (options : PackOptions)
  /-- Folds the constants of an expression. -/
  | fold (options : FoldOptions)
  /-- Lists types and operators. -/
  | catalog (json : Bool)
deriving DecidableEq, Repr

end VmToolchain
