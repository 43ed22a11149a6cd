import VmToolchain.File

/-! A store of files in directories, and the paths into it. Paths start from a working directory,
or from the root if they start with a slash.
-/

namespace VmToolchain

/-- What a path can lead to. -/
inductive StoreEntry where
  | file (contents : List UInt8)
  | directory
deriving DecidableEq

/-- Files and directories by the names on the way from the root, which is a directory itself. -/
structure Store where
  /-- The names of the working directory. -/
  home : List String
  entries : List (List String × StoreEntry)

/-- Where a path ends: at an entry, or at a free name in a directory. -/
inductive StorePlace where
  | taken (names : List String) (entry : StoreEntry)
  | vacant (names : List String)
deriving DecidableEq

namespace Store

/-- What stands at the end of the names. -/
def entry? (store : Store) (names : List String) : Option StoreEntry :=
  if names.isEmpty then some .directory else store.entries.lookup names

/-- Puts an entry in the place of any other of its name. -/
def put (store : Store) (names : List String) (entry : StoreEntry) : Store :=
  { store with entries := (names, entry) :: store.entries.filter (fun other => other.1 != names) }

/-- Adds directories for all the names on the way. -/
def makeDirectories (store : Store) (names : List String) : Store :=
  (List.range names.length).foldl
    (fun store count => store.put (names.take (count + 1)) .directory) store

/-- A store with nothing but the working directory and those above it. -/
def startingAt (home : List String) : Store :=
  makeDirectories ⟨home, []⟩ home

/-- The most bytes that a name may have. -/
def maxNameSize : Nat := 255

/-- The most bytes that a path may have. -/
def maxPathSize : Nat := 4095

/-- Follows the names of a path from a directory. All but the last must lead to directories. That a
name is too long is found when it is looked for, so faults before it are found first.
-/
def follow (store : Store) (directory : List String) : List String → Except FileError StorePlace
  | [] => .ok (.taken directory .directory)
  | name :: rest =>
      if name = "" ∨ name = "." then store.follow directory rest
      else if name = ".." then store.follow directory.dropLast rest
      else if maxNameSize < name.utf8ByteSize then .error .nameTooLong
      else
        let names := directory ++ [name]
        match store.entry? names, rest with
        | some .directory, _ => store.follow names rest
        | some (.file contents), [] => .ok (.taken names (.file contents))
        | some (.file _), _ :: _ => .error .notDirectory
        | none, [] => .ok (.vacant names)
        | none, _ :: _ => .error .notFound

/-- The names of a path, between its slashes. -/
def pathNames (path : String) : List String :=
  path.splitToList (· == '/')

/-- The directory that a path starts from. -/
def origin (store : Store) (path : String) : List String :=
  if path.toList.head? = some '/' then [] else store.home

/-- The place at the end of these names of a path. An empty path leads nowhere. -/
def locate (store : Store) (path : String) (names : List String) : Except FileError StorePlace :=
  if path = "" then .error .notFound
  else if maxPathSize < path.utf8ByteSize then .error .nameTooLong
  else store.follow (store.origin path) names

/-- The contents of a file. -/
def read (store : Store) (path : String) : Except FileError (List UInt8) :=
  match store.locate path (pathNames path) with
  | .error error => .error error
  | .ok (.vacant _) => .error .notFound
  | .ok (.taken _ .directory) => .error .isDirectory
  | .ok (.taken _ (.file contents)) => .ok contents

/-- Whether the path ends with a slash, and so asks for a directory. -/
def asksDirectory (path : String) : Bool :=
  path.toList.getLast? == some '/'

/-- The names to follow before a file is written. If the path asks for a directory, they lead to the
directory that would hold it, whatever its own name is.
-/
def targetNames (path : String) : List String :=
  let names := (pathNames path).filter (· ≠ "")
  if asksDirectory path then names.dropLast ++ [""] else names

/-- The store with the contents in the file that the path leads to; a new file needs only its
directory to be there. Directories cannot be written.
-/
def write (store : Store) (path : String) (contents : List UInt8) : Except FileError Store :=
  match store.locate path (targetNames path) with
  | .error error => .error error
  | .ok (.taken _ .directory) => .error .isDirectory
  | .ok (.taken names (.file _)) | .ok (.vacant names) => .ok (store.put names (.file contents))

/-- Adds a file or, if its path asks for one, a directory, and the directories on the way. The path
starts from the working directory and is not checked.
-/
def add (store : Store) (path : String) (contents : List UInt8) : Store :=
  let names := store.home ++ (pathNames path).filter (fun name => name ≠ "" ∧ name ≠ ".")
  if asksDirectory path then store.makeDirectories names
  else (store.makeDirectories names.dropLast).put names (.file contents)

/-- The paths and contents of all files below the working directory. -/
def files (store : Store) : List (String × List UInt8) :=
  store.entries.filterMap (fun (names, entry) =>
    match entry with
    | .file contents =>
        (store.home.isPrefixOf? names).map (fun rest => ("/".intercalate rest, contents))
    | .directory => none)

/-- The files that an earlier store did not hold, or not with these contents. -/
def changedSince (store earlier : Store) : List (String × List UInt8) :=
  store.files.filter (fun file => !earlier.files.contains file)

/-- A store as the state of a computation. A refused write leaves it as it was. -/
def access : FileAccess (StateM Store) where
  read path := do return (← get).read path
  write path contents := do
    match (← get).write path contents with
    | .error error => return .error error
    | .ok store =>
        set store
        return .ok ()

end Store

end VmToolchain
