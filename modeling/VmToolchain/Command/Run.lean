import VmToolchain.Catalog
import VmToolchain.Command.Arguments
import VmToolchain.ConstantPool.Builder
import VmToolchain.Expr.Json
import VmToolchain.ModuleFile.Dump
import VmToolchain.Session

/-! Running commands. A command reads its files, and only when nothing can fail any more but the
writing itself does it write; so a command that fails leaves all files as they were.
-/

namespace VmToolchain

/-- Why a command fails. -/
inductive CommandFailure where
  | file (path : String) (error : FileError)
  | moduleFile (path : String) (error : ModuleError)
  | notExpression (path : String)
  | fold (error : FoldError)
  | pool (error : PoolError)
  | emit (error : EmitError)
deriving DecidableEq

/-- The line shown for the failure. An unreadable expression ends it at the colon. -/
def CommandFailure.line : CommandFailure → String
  | .file path error => "error: " ++ path ++ ": " ++ error.message ++ "\n"
  | .moduleFile path error => "error: " ++ path ++ ": " ++ error.message ++ "\n"
  | .notExpression path => "error: " ++ path ++ ": invalid expression:"
  | .fold error => "error: " ++ error.message ++ "\n"
  | .pool error => "error: " ++ error.message ++ "\n"
  | .emit error => "error: " ++ error.message ++ "\n"

/-- What a command leaves besides files. -/
structure Outcome where
  status : Nat
  stdout : String
  stderr : String
deriving DecidableEq, Repr

namespace Outcome

/-- Success, with what goes to the two streams. -/
def success (stdout stderr : String) : Outcome :=
  ⟨0, stdout, stderr⟩

/-- Failure: the trace so far, then the failure's line, and nothing on the standard output. -/
def failure (trace : String) (failure : CommandFailure) : Outcome :=
  ⟨1, "", trace ++ failure.line⟩

/-- The answer to words that are no command, in colour on a terminal. Help is no error. -/
def refusal (terminal : Bool) (error : Arguments.Error) : Outcome :=
  let text := (if terminal then error.coloredMessage else error.message) ++ "\n"
  if error = .helpRequested then ⟨0, text, ""⟩ else ⟨2, "", text⟩

end Outcome

namespace ConstantPool

/-- The listing of a pool: a line for each constant, with its id. -/
def dump (palette : Palette) (pool : ConstantPool) : String :=
  let idWidth := pool.size.repr.length + 1
  "\n" ++ palette.kind "[constants]" ++ "\n"
    ++ String.join (pool.constants.toList.zipIdx.map (fun (constant, id) =>
        Text.padRight idWidth (Constant.idText id) ++ " "
          ++ palette.value constant.display ++ "\n"))

end ConstantPool

namespace Command

variable {m : Type → Type} [Monad m]

/-- The listing of a module file's bytes: the module, then its constants, if it has any. -/
def dumpText (options : DumpOptions) (palette : Palette) (bytes : List UInt8)
    : Except CommandFailure String := do
  let file ← (ModuleFile.decode options.unknown bytes).mapError (.moduleFile options.path)
  let pool ← (ConstantPool.ofModule file).mapError .pool
  return file.dump palette ++ (if pool.size = 0 then "" else pool.dump palette)

/-- Shows a module file on the standard output. -/
def runDump (files : FileAccess m) (terminal : Bool) (options : DumpOptions) : m Outcome := do
  match ← files.read options.path with
  | .error error => return .failure "" (.file options.path error)
  | .ok bytes =>
      match dumpText options (options.color.palette terminal) bytes with
      | .error failure => return .failure "" failure
      | .ok text => return .success text ""

/-- Adds the contents of the files to the module, in order. -/
def addChunks (files : FileAccess m) (builder : ModuleBuilder)
    : List ChunkSpec → m (Except CommandFailure ModuleBuilder)
  | [] => return .ok builder
  | spec :: rest => do
      match ← files.read spec.path with
      | .error error => return .error (.file spec.path error)
      | .ok payload =>
          match (ModuleBuilder.push spec.kind payload).runOn builder with
          | (.error error, _) => return .error (.moduleFile spec.path error)
          | (.ok (), builder) => addChunks files builder rest

/-- Makes the module and writes it; gives the size of the file. -/
def assemble (files : FileAccess m) (options : PackOptions) : m (Except CommandFailure Nat) := do
  match ← addChunks files (if options.header then .new else .headerless) options.chunks with
  | .error failure => return .error failure
  | .ok builder =>
      let bytes := builder.finish.encode
      match ← files.write options.output bytes with
      | .error error => return .error (.file options.output error)
      | .ok () => return .ok bytes.length

/-- Makes a module file and reports its size. -/
def runPack (files : FileAccess m) (options : PackOptions) : m Outcome := do
  match ← assemble files options with
  | .error failure => return .failure "" failure
  | .ok size => return .success "" ("wrote " ++ options.output ++ " (" ++ size.repr ++ " bytes)\n")

mutual

/-- Whether the tree has a value: it holds nothing but leaves and operators with rules. -/
def isEvaluable : Expr → Bool
  | .literal _ | .var _ _ => true
  | .apply op operands => op.hasRules && allEvaluable operands
  | .call _ _ | .lambda _ _ => false

/-- Whether each of the trees has a value. -/
def allEvaluable : List Expr → Bool
  | [] => true
  | e :: rest => isEvaluable e && allEvaluable rest

end

/-- Folds the expression and evaluates what is left, if it has a value. Gives the folded tree and
the lines to be shown: the tree, then the value.
-/
def foldText (session : Session) (e : Expr) : Except FoldError (Expr × String) × Session :=
  match session.fold e with
  | (.error error, session) => (.error error, session)
  | (.ok folded, session) =>
      let line := folded.display ++ "\n"
      if isEvaluable folded then
        match session.evaluate folded with
        | (.error error, session) => (.error error, session)
        | (.ok value, session) => (.ok (folded, line ++ value.display ++ "\n"), session)
      else (.ok (folded, line), session)

/-- The constants of the expression. -/
def poolOf (e : Expr) : PoolBuilder :=
  PoolBuilder.empty.internAll e.literals

/-- Writes a module with the constants of the expression; gives their number. -/
def writePool (files : FileAccess m) (e : Expr) (path : String)
    : m (Except CommandFailure Nat) := do
  let pool := poolOf e
  match pool.writeInto.runOn .new with
  | (.error error, _) => return .error (.emit error)
  | (.ok (), builder) =>
      match ← files.write path builder.finish.encode with
      | .error error => return .error (.file path error)
      | .ok () => return .ok pool.size

/-- The lines that a session has traced. -/
def traceOf (session : Session) : String :=
  match session.printer with
  | none => ""
  | some printer => printer.output

/-- Folds an expression that was read, and writes its constants if a file is named for them. -/
def foldExpr (files : FileAccess m) (terminal : Bool) (options : FoldOptions) (e : Expr)
    : m Outcome := do
  let palette := options.color.palette terminal
  let printer := options.verbosity?.map (fun verbosity => { verbosity, palette : TracePrinter })
  let (result, session) := foldText { policy := options.policy, printer } e
  let trace := traceOf session
  match result with
  | .error error => return .failure trace (.fold error)
  | .ok (folded, text) =>
      match options.output? with
      | none => return .success text trace
      | some output =>
          match ← writePool files folded output with
          | .error failure => return .failure trace failure
          | .ok count =>
              return .success text
                (trace ++ "wrote " ++ output ++ " (" ++ count.repr ++ " constants)\n")

/-- Reads an expression and folds it. -/
def runFold (files : FileAccess m) (terminal : Bool) (options : FoldOptions) : m Outcome := do
  match ← files.read options.path with
  | .error error => return .failure "" (.file options.path error)
  | .ok bytes =>
      match Expr.parse? bytes with
      | none => return .failure "" (.notExpression options.path)
      | some e => foldExpr files terminal options e

/-- Runs a command. -/
def run (files : FileAccess m) (terminal : Bool) : Command → m Outcome
  | .dump options => runDump files terminal options
  | .pack options => runPack files options
  | .fold options => runFold files terminal options
  | .catalog json =>
      return .success (if json then Catalog.json.renderIndented ++ "\n" else Catalog.text) ""

/-- Runs the command that the words ask for. -/
def runWords (files : FileAccess m) (terminal : Bool) (words : List String) : m Outcome :=
  match Arguments.parse words with
  | .error error => return .refusal terminal error
  | .ok command => command.run files terminal

end Command

end VmToolchain
