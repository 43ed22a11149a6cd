/-! Access to files. What a command does with files is written against `FileAccess`, so that it
runs on the files of the system and on the files of a `Store` alike.
-/

namespace VmToolchain

/-- A refusal of the system, with its code. -/
structure FileError where
  description : String
  code : Nat
deriving DecidableEq, Repr

namespace FileError

def notFound : FileError := ⟨"No such file or directory", 2⟩

def notDirectory : FileError := ⟨"Not a directory", 20⟩

def isDirectory : FileError := ⟨"Is a directory", 21⟩

def nameTooLong : FileError := ⟨"File name too long", 36⟩

def message (error : FileError) : String :=
  error.description ++ " (os error " ++ error.code.repr ++ ")"

end FileError

/-- Reading and writing whole files by path. -/
structure FileAccess (m : Type → Type) where
  read : String → m (Except FileError (List UInt8))
  write : String → List UInt8 → m (Except FileError Unit)

end VmToolchain
