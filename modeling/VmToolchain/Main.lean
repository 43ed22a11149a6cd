import VmToolchain.Command.Run

/-! The command line on the files of the system. -/

namespace VmToolchain

/-- The system's refusal as a file error. -/
def FileError.ofSystem : IO.Error → FileError
  | .noFileOrDirectory .. => .notFound
  | .inappropriateType _ code details => ⟨details, code.toNat⟩
  | .invalidArgument _ code details => ⟨details, code.toNat⟩
  | .permissionDenied _ code details => ⟨details, code.toNat⟩
  | error => ⟨toString error, 5⟩

/-- The files of the system. -/
def systemFiles : FileAccess IO where
  read path := do
    try return .ok (← IO.FS.readBinFile path).data.toList
    catch error => return .error (.ofSystem error)
  write path contents := do
    try
      IO.FS.writeBinFile path ⟨contents.toArray⟩
      return .ok ()
    catch error => return .error (.ofSystem error)

end VmToolchain

/-- Runs the command that the words ask for. -/
def main (words : List String) : IO UInt32 := do
  let stdout ← IO.getStdout
  let stderr ← IO.getStderr
  let terminal := (← stdout.isTty) && (← stderr.isTty)
  let outcome ← VmToolchain.Command.runWords VmToolchain.systemFiles terminal words
  stdout.putStr outcome.stdout
  stderr.putStr outcome.stderr
  return outcome.status.toUInt32
