/-! Plain text from text with terminal controls: escape sequences are dropped, and so are all
control characters but the blank ones.
-/

namespace VmToolchain.Text

/-- The part of an escape sequence that a text has come to. -/
inductive Control where
  /-- No sequence is open. -/
  | none
  /-- Behind the escape character. -/
  | escape
  /-- Behind the intermediate characters of a short sequence. -/
  | intermediate
  /-- In a control sequence, which ends with a letter or a sign of the letters' columns. -/
  | sequence
  /-- At the start of a device control string. -/
  | device
  /-- In the parameters of a device control string. -/
  | deviceParameters
  /-- In the intermediate characters of a device control string. -/
  | deviceIntermediate
  /-- In a string that the terminator byte ends. -/
  | string
  /-- In a string that the bell ends. -/
  | title
deriving DecidableEq, Repr

/-- The control characters that only move the place of the next character. -/
def isBlankControl (c : Char) : Bool :=
  c == '\t' || c == '\n' || c == '\x0c' || c == '\r'

/-- Whether the bytes of the character hold the byte that terminates a string. -/
def holdsTerminator (c : Char) : Bool :=
  (String.utf8EncodeChar c).contains 0x9c

namespace Control

/-- Where one more character leads. The escape character opens a sequence anywhere, and cancel and
substitute end one anywhere.
-/
def next (state : Control) (c : Char) : Control :=
  if c = '\x1b' then .escape
  else if c = '\x18' ∨ c = '\x1a' then .none
  else
    match state with
    | .none => .none
    | .escape =>
        if c = '[' then .sequence
        else if c = ']' then .title
        else if c = 'P' then .device
        else if c = 'X' ∨ c = '^' ∨ c = '_' then .string
        else if ' ' ≤ c ∧ c ≤ '/' then .intermediate
        else if '0' ≤ c ∧ c ≤ '~' then .none
        else .escape
    | .intermediate => if '0' ≤ c ∧ c ≤ '~' then .none else .intermediate
    | .sequence => if '@' ≤ c ∧ c ≤ '~' then .none else .sequence
    | .device =>
        if ' ' ≤ c ∧ c ≤ '/' then .deviceIntermediate
        else if '0' ≤ c ∧ c ≤ '?' then .deviceParameters
        else if '@' ≤ c ∧ c ≤ '~' then .string
        else .device
    | .deviceParameters =>
        if ' ' ≤ c ∧ c ≤ '/' then .deviceIntermediate
        else if '<' ≤ c ∧ c ≤ '~' then .string
        else .deviceParameters
    | .deviceIntermediate => if '0' ≤ c ∧ c ≤ '~' then .string else .deviceIntermediate
    | .string => if holdsTerminator c then .none else .string
    | .title => if c = '\x07' then .none else .title

/-- Whether the character is kept. Blank controls are kept in all sequences but strings. -/
def keeps (state : Control) (c : Char) : Bool :=
  match state with
  | .none => isBlankControl c || (' ' ≤ c && c != '\x7f')
  | .escape | .intermediate | .sequence => isBlankControl c
  | .device | .deviceParameters | .deviceIntermediate | .string | .title => false

end Control

/-- The characters that are kept. A blank control suspends the sequence it stands in: what follows
is text up to the next other control, where the sequence goes on. A character beyond ASCII in that
text ends the sequence.
-/
def plainChars (state : Control) (suspended : Bool) : List Char → List Char
  | [] => []
  | c :: rest =>
      if (if suspended then Control.none else state).keeps c then
        c :: plainChars (if c.toNat < 128 then state else .none) true rest
      else plainChars (state.next c) false rest

/-- The text without escape sequences and control characters. -/
def plain (text : String) : String :=
  String.ofList (plainChars .none false text.toList)

end VmToolchain.Text
