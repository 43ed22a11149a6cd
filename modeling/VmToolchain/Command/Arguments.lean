import VmToolchain.Command.Basic
import VmToolchain.Text.Plain

/-! Commands from the words of a command line. Options and the positional word mix in any order. A
value is looked at only when the next word that is accepted, or the end of the line, settles it; so
a word that has no place at all is reported before a bad value in front of it.
-/

namespace VmToolchain

namespace Arguments

/-- The commands by name. -/
inductive CommandName where
  | dump
  | pack
  | fold
  | catalog
deriving DecidableEq, Repr

/-- The options of all commands. -/
inductive Setting where
  | skipUnknown
  | color
  | output
  | chunk
  | noHeader
  | strict
  | verbose
  | json
  | help
deriving DecidableEq, Repr

namespace CommandName

def all : List CommandName :=
  [.dump, .pack, .fold, .catalog]

def name : CommandName → String
  | .dump => "dump"
  | .pack => "pack"
  | .fold => "fold"
  | .catalog => "catalog"

def ofName? (word : String) : Option CommandName :=
  all.find? (fun command => command.name == word)

def about : CommandName → String
  | .dump => "Show the chunks of a module file"
  | .pack => "Assemble a module from payload files"
  | .fold => "Constant-fold an expression tree"
  | .catalog => "List primitive types and operators"

/-- The options that the command takes. -/
def settings : CommandName → List Setting
  | .dump => [.skipUnknown, .color, .help]
  | .pack => [.output, .chunk, .noHeader, .help]
  | .fold => [.strict, .verbose, .output, .color, .help]
  | .catalog => [.json, .help]

/-- What the command's positional word is called, if it takes one. -/
def positional? : CommandName → Option String
  | .dump => some "<MODULE>"
  | .fold => some "<EXPR>"
  | .pack | .catalog => none

end CommandName

namespace Setting

def long? : Setting → Option String
  | .skipUnknown => some "skip-unknown"
  | .color => some "color"
  | .output => some "output"
  | .chunk => some "chunk"
  | .noHeader => some "no-header"
  | .strict => some "strict"
  | .verbose => none
  | .json => some "json"
  | .help => some "help"

def short? : Setting → Option Char
  | .output => some 'o'
  | .verbose => some 'v'
  | .help => some 'h'
  | _ => none

/-- What the option's value is called, if it takes one. -/
def value? : Setting → Option String
  | .color => some "<WHEN>"
  | .output => some "<FILE>"
  | .chunk => some "<KIND=PATH>"
  | _ => none

/-- The option as messages show it. -/
def display (setting : Setting) : String :=
  (match setting.long?, setting.short? with
    | some long, _ => "--" ++ long
    | none, some short => "-" ++ String.singleton short
    | none, none => "")
  ++ (match setting.value? with
      | some value => " " ++ value
      | none => "")

end Setting

/-- Why words are no command. An argument is given as messages show it. -/
inductive Error where
  | helpRequested
  | missingCommand
  | unknownCommand (word : String)
  | unexpected (word : String)
  | repeated (argument : String)
  | needlessValue (value argument : String)
  | missingValue (argument : String)
  | invalidValue (value argument : String)
  | invalidChunk (value argument : String) (error : ChunkSpecError)
  | missingRequired
deriving DecidableEq, Repr

/-- What the program is for. -/
def about : String := "Inspect, assemble and fold SimpleVM modules"

/-- An error message in colour: what is wrong, then how to get help. -/
def errorText (cause : String) : String :=
  Palette.colored.alarm "error:" ++ " " ++ cause ++ "\n\nFor more information, try '"
    ++ Palette.colored.verbatim "--help" ++ "'."

/-- Refused input in quotes. -/
def refused (text : String) : String :=
  "'" ++ Palette.colored.refused text ++ "'"

/-- An option or a positional word in quotes. -/
def verbatim (text : String) : String :=
  "'" ++ Palette.colored.verbatim text ++ "'"

/-- The message in colour; a request for help is answered with the list of commands. -/
def Error.coloredMessage : Error → String
  | .helpRequested =>
      about ++ "\n\nCommands:"
        ++ String.join (CommandName.all.map (fun command =>
            "\n  " ++ command.name ++ ": " ++ command.about))
  | .missingCommand => about
  | .unknownCommand word => errorText ("unrecognized subcommand " ++ refused word)
  | .unexpected word => errorText ("unexpected argument " ++ refused word ++ " found")
  | .repeated argument =>
      errorText ("the argument " ++ refused argument ++ " cannot be used multiple times")
  | .needlessValue value argument =>
      errorText ("unexpected value " ++ refused value ++ " for " ++ verbatim argument
        ++ " found; no more were expected")
  | .missingValue argument =>
      errorText ("a value is required for " ++ verbatim argument ++ " but none was supplied")
  | .invalidValue value argument =>
      errorText ("invalid value " ++ refused value ++ " for " ++ verbatim argument)
  | .invalidChunk value argument error =>
      errorText ("invalid value " ++ refused value ++ " for " ++ verbatim argument ++ ": "
        ++ error.message)
  | .missingRequired => errorText "the following required arguments were not provided:"

/-- The message in plain text. The words in it lose their own controls together with the colours. -/
def Error.message (error : Error) : String :=
  Text.plain error.coloredMessage

/-- The settled part of a command line. -/
structure Given where
  positional? : Option String := none
  color? : Option ColorChoice := none
  output? : Option String := none
  chunks : List ChunkSpec := []
  flags : List Setting := []
  verbose : Nat := 0

/-- The word that is not settled yet. -/
inductive Pending where
  | none
  /-- An option whose value has not come. -/
  | awaited (setting : Setting)
  | value (setting : Setting) (value : String)
  | positional (word : String)

/-- The reading of a command line so far. -/
structure Reader where
  command : CommandName
  given : Given := {}
  pending : Pending := .none
  /-- Whether all further words are positional. -/
  optionsEnded : Bool := false

namespace Given

/-- Takes an option's value. That the option came before is found before the value is read; an
empty value is none, except for a chunk.
-/
def takeValue (given : Given) (setting : Setting) (value : String) : Except Error Given :=
  match setting with
  | .color =>
      if given.color?.isSome then .error (.repeated setting.display)
      else if value = "" then .error (.missingValue setting.display)
      else
        match ColorChoice.ofName? value with
        | some choice => .ok { given with color? := some choice }
        | none => .error (.invalidValue value setting.display)
  | .output =>
      if given.output?.isSome then .error (.repeated setting.display)
      else if value = "" then .error (.missingValue setting.display)
      else .ok { given with output? := some value }
  | .chunk =>
      match ChunkSpec.parse value with
      | .ok spec => .ok { given with chunks := given.chunks ++ [spec] }
      | .error error => .error (.invalidChunk value setting.display error)
  | _ => .ok given

/-- Takes an option without a value. Only the request for more detail may come again; it is counted
up to 255.
-/
def takeFlag (given : Given) (setting : Setting) : Except Error Given :=
  match setting with
  | .help => .error .helpRequested
  | .verbose => .ok { given with verbose := min (given.verbose + 1) 255 }
  | _ =>
      if setting ∈ given.flags then .error (.repeated setting.display)
      else .ok { given with flags := setting :: given.flags }

end Given

namespace Reader

/-- The option of the command with this long name. -/
def long? (reader : Reader) (name : String) : Option Setting :=
  reader.command.settings.find? (fun setting => setting.long? == some name)

/-- The option of the command with this letter. -/
def short? (reader : Reader) (letter : Char) : Option Setting :=
  reader.command.settings.find? (fun setting => setting.short? == some letter)

/-- Settles the pending word. -/
def settle (reader : Reader) : Except Error Reader :=
  match reader.pending with
  | .none => .ok reader
  | .awaited setting => .error (.missingValue setting.display)
  | .value setting value => do
      return { reader with given := ← reader.given.takeValue setting value, pending := .none }
  | .positional word =>
      if word = "" then .error (.missingValue (reader.command.positional?.getD ""))
      else
        .ok { reader with
          given := { reader.given with positional? := some word }
          pending := .none }

/-- An option with its value in the same word. -/
def readAttached (reader : Reader) (setting : Setting) (value : String)
    : Except Error Reader := do
  let reader ← reader.settle
  return { reader with given := ← reader.given.takeValue setting value }

/-- An option whose value is the next word. -/
def awaitValue (reader : Reader) (setting : Setting) : Except Error Reader := do
  return { ← reader.settle with pending := .awaited setting }

/-- An option without a value. -/
def readFlag (reader : Reader) (setting : Setting) : Except Error Reader := do
  let reader ← reader.settle
  return { reader with given := ← reader.given.takeFlag setting }

/-- A long option, without its two hyphens. -/
def readLong (reader : Reader) (word : List Char) : Except Error Reader :=
  let name := String.ofList (word.takeWhile (· != '='))
  let value? := (word.dropWhile (· != '=')).tail?.map String.ofList
  match reader.long? name with
  | none => .error (.unexpected ("--" ++ name))
  | some setting =>
      match setting.value?.isSome, value? with
      | true, some value => reader.readAttached setting value
      | true, none => reader.awaitValue setting
      | false, some value => .error (.needlessValue value setting.display)
      | false, none => reader.readFlag setting

/-- Short options, without their hyphen. What follows the letter of an option with a value is the
value, with or without an equals sign before it.
-/
def readShorts (reader : Reader) : List Char → Except Error Reader
  | [] => .ok reader
  | letter :: rest =>
      match reader.short? letter with
      | none => .error (.unexpected ("-" ++ String.singleton letter))
      | some setting =>
          if setting.value?.isSome then
            match rest with
            | [] => reader.awaitValue setting
            | '=' :: value => reader.readAttached setting (String.ofList value)
            | value => reader.readAttached setting (String.ofList value)
          else do
            let reader ← reader.readFlag setting
            reader.readShorts rest

/-- A positional word; no command takes more than one. -/
def readPositional (reader : Reader) (word : String) : Except Error Reader :=
  let taken := reader.given.positional?.isSome || reader.pending matches .positional _
  if reader.command.positional?.isNone || taken then .error (.unexpected word)
  else do return { ← reader.settle with pending := .positional word }

/-- One more word. Two hyphens end the options, and one hyphen is a word like any other. -/
def readWord (reader : Reader) (word : String) : Except Error Reader :=
  if reader.optionsEnded then reader.readPositional word
  else
    match word.toList with
    | ['-', '-'] => .ok { reader with optionsEnded := true }
    | '-' :: '-' :: option => reader.readLong option
    | '-' :: letter :: letters => reader.readShorts (letter :: letters)
    | _ =>
        match reader.pending with
        | .awaited setting => .ok { reader with pending := .value setting word }
        | _ => reader.readPositional word

/-- All words, up to the first that is refused. -/
def readWords (reader : Reader) : List String → Except Error Reader
  | [] => .ok reader
  | word :: rest => do
      let reader ← reader.readWord word
      reader.readWords rest

end Reader

/-- The command with the words that were given for it. -/
def Given.toCommand (given : Given) : CommandName → Except Error Command
  | .dump =>
      match given.positional? with
      | none => .error .missingRequired
      | some path =>
          .ok (.dump
            { path
              unknown := if .skipUnknown ∈ given.flags then .skip else .refuse
              color := given.color?.getD .auto })
  | .pack =>
      match given.output? with
      | none => .error .missingRequired
      | some output =>
          .ok (.pack
            { output
              chunks := given.chunks
              header := .noHeader ∉ given.flags })
  | .fold =>
      match given.positional? with
      | none => .error .missingRequired
      | some path =>
          .ok (.fold
            { path
              policy := if .strict ∈ given.flags then .strict else .lenient
              verbose := given.verbose
              output? := given.output?
              color := given.color?.getD .auto })
  | .catalog => .ok (.catalog (.json ∈ given.flags))

/-- Whether the word is a command, or asks for help on one. -/
def isCommandWord (word : String) : Bool :=
  word == "help" || (CommandName.ofName? word).isSome

/-- What the words after `help` ask for: help on a command, which has no commands of its own. -/
def helpError : List String → Error
  | [] => .helpRequested
  | word :: rest =>
      if isCommandWord word then
        match rest with
        | [] => .helpRequested
        | next :: _ => .unknownCommand next
      else .unknownCommand word

/-- What is wrong with a first word that is no command. Before a command, only help can be asked
for, and a command must not stand behind two hyphens.
-/
def leadingError (word : String) (rest : List String) : Error :=
  match word.toList with
  | ['-', '-'] =>
      match rest with
      | [] => .missingCommand
      | next :: _ => if isCommandWord next then .unexpected next else .unknownCommand next
  | '-' :: '-' :: option =>
      let name := String.ofList (option.takeWhile (· != '='))
      if name = "help" then
        match (option.dropWhile (· != '=')).tail? with
        | some value => .needlessValue (String.ofList value) Setting.help.display
        | none => .helpRequested
      else .unexpected ("--" ++ name)
  | '-' :: letter :: _ =>
      if letter = 'h' then .helpRequested else .unexpected ("-" ++ String.singleton letter)
  | _ => .unknownCommand word

/-- The command that the words of a command line ask for. -/
def parse : List String → Except Error Command
  | [] => .error .missingCommand
  | word :: rest =>
      match CommandName.ofName? word with
      | some command => do
          let reader ← ({ command : Reader }).readWords rest
          let reader ← reader.settle
          reader.given.toCommand command
      | none => .error (if word = "help" then helpError rest else leadingError word rest)

end Arguments

end VmToolchain
