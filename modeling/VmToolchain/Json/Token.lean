import VmToolchain.Json.Document

/-! JSON tokens, read from bytes. The lexer takes one byte at a time, so that reading a text in two
parts is reading the second part from the state that the first part leaves.
-/

namespace VmToolchain.Json

/-- A token; the strings of the document are values of `τ`. -/
inductive Token (τ : Type) where
  | openList
  | closeList
  | openObject
  | closeObject
  | comma
  | colon
  | null
  | bool (value : Bool)
  | number (literal : String)
  | text (content : τ)

/-- A part of a string literal: a byte that stands for itself, or a UTF-16 unit written as an
escape with four digits.
-/
inductive TextPiece where
  | byte (value : UInt8)
  | unit (value : Nat)

/-- Whether the unit starts a pair. -/
def isHighSurrogate (unit : Nat) : Bool :=
  0xd800 ≤ unit && unit ≤ 0xdbff

/-- Whether the unit ends a pair. -/
def isLowSurrogate (unit : Nat) : Bool :=
  0xdc00 ≤ unit && unit ≤ 0xdfff

/-- The UTF-8 bytes that the pieces stand for, after those already spelled. Surrogates must come
in pairs.
-/
def spellBytes? (spelled : ByteArray) : List TextPiece → Option ByteArray
  | [] => some spelled
  | .byte value :: rest => spellBytes? (spelled.push value) rest
  | .unit high :: .unit low :: rest =>
      if isHighSurrogate high then
        if isLowSurrogate low then
          let point := 0x10000 + (high - 0xd800) * 0x400 + (low - 0xdc00)
          spellBytes? (spelled ++ (String.singleton (Char.ofNat point)).toByteArray) rest
        else none
      else if isLowSurrogate high then none
      else
        spellBytes? (spelled ++ (String.singleton (Char.ofNat high)).toByteArray)
          (.unit low :: rest)
  | .unit value :: rest =>
      if isHighSurrogate value || isLowSurrogate value then none
      else spellBytes? (spelled ++ (String.singleton (Char.ofNat value)).toByteArray) rest

/-- The text that a string literal spells, if it spells one. -/
def spell? (pieces : List TextPiece) : Option String :=
  (spellBytes? ByteArray.empty pieces).bind String.fromUTF8?

/-- An exponent, or nothing. -/
def isExponent : List Char → Bool
  | [] => true
  | mark :: rest =>
      let digits := match rest with
        | '+' :: digits => digits
        | '-' :: digits => digits
        | digits => digits
      (mark == 'e' || mark == 'E') && !digits.isEmpty && digits.all Char.isDigit

/-- A fraction and an exponent, either of them optional. -/
def isFraction : List Char → Bool
  | '.' :: rest => (rest.head?.any Char.isDigit) && isExponent (rest.dropWhile Char.isDigit)
  | rest => isExponent rest

/-- Whether the characters are a number: a whole part without needless zeros, then an optional
fraction and exponent.
-/
def isNumber (literal : List Char) : Bool :=
  let unsigned := match literal with
    | '-' :: rest => rest
    | rest => rest
  match unsigned with
  | '0' :: rest => isFraction rest
  | first :: rest => first.isDigit && isFraction (rest.dropWhile Char.isDigit)
  | [] => false

/-- The token for a run of letters, digits and signs. -/
def wordToken? {τ : Type} (word : List Char) : Option (Token τ) :=
  if word = ['n', 'u', 'l', 'l'] then some .null
  else if word = ['t', 'r', 'u', 'e'] then some (.bool true)
  else if word = ['f', 'a', 'l', 's', 'e'] then some (.bool false)
  else if isNumber word then some (.number (String.ofList word))
  else none

/-- What the lexer is in the middle of; the parts read so far are in reverse. -/
inductive Lexer.Mode where
  | between
  | word (chars : List Char)
  | text (pieces : List TextPiece)
  | escape (pieces : List TextPiece)
  | unit (pieces : List TextPiece) (missing value : Nat)

/-- The tokens read so far, in reverse, and what is being read. -/
structure Lexer where
  tokens : List (Token (Option String)) := []
  mode : Lexer.Mode := .between

namespace Lexer

/-- The blanks between tokens. -/
def isBlank (c : Char) : Bool :=
  c == ' ' || c == '\t' || c == '\n' || c == '\r'

/-- The characters of numbers and of the words for null and the truth values. -/
def isWordChar (c : Char) : Bool :=
  c.isAlphanum || c == '+' || c == '-' || c == '.'

/-- The token that one character makes alone. -/
def punctuation? : Char → Option (Token (Option String))
  | '[' => some .openList
  | ']' => some .closeList
  | '\x7b' => some .openObject
  | '\x7d' => some .closeObject
  | ',' => some .comma
  | ':' => some .colon
  | _ => none

/-- A character between tokens. -/
def stepBetween? (tokens : List (Token (Option String))) (c : Char) : Option Lexer :=
  match punctuation? c with
  | some token => some ⟨token :: tokens, .between⟩
  | none =>
      if isBlank c then some ⟨tokens, .between⟩
      else if c = '\"' then some ⟨tokens, .text []⟩
      else if isWordChar c then some ⟨tokens, .word [c]⟩
      else none

/-- The character that a backslash before it stands for; an escape with digits is not among them. -/
def escapedByte? : Char → Option UInt8
  | '\"' => some 0x22
  | '\\' => some 0x5c
  | '/' => some 0x2f
  | 'b' => some 0x08
  | 'f' => some 0x0c
  | 'n' => some 0x0a
  | 'r' => some 0x0d
  | 't' => some 0x09
  | _ => none

/-- The state after one more byte. A byte beyond ASCII can only be a part of a string literal. -/
def step? (lexer : Lexer) (byte : UInt8) : Option Lexer :=
  let c := Char.ofUInt8 byte
  match lexer.mode with
  | .between => stepBetween? lexer.tokens c
  | .word chars =>
      if isWordChar c then some { lexer with mode := .word (c :: chars) }
      else
        match wordToken? chars.reverse with
        | some token => stepBetween? (token :: lexer.tokens) c
        | none => none
  | .text pieces =>
      if c = '\"' then some ⟨.text (spell? pieces.reverse) :: lexer.tokens, .between⟩
      else if c = '\\' then some { lexer with mode := .escape pieces }
      else if byte < 0x20 then none
      else some { lexer with mode := .text (.byte byte :: pieces) }
  | .escape pieces =>
      if c = 'u' then some { lexer with mode := .unit pieces 3 0 }
      else
        match escapedByte? c with
        | some escaped => some { lexer with mode := .text (.byte escaped :: pieces) }
        | none => none
  | .unit pieces missing value =>
      match Text.hexValue? c, missing with
      | some digit, 0 => some { lexer with mode := .text (.unit (16 * value + digit) :: pieces) }
      | some digit, missing + 1 =>
          some { lexer with mode := .unit pieces missing (16 * value + digit) }
      | none, _ => none

/-- The state after all the bytes. -/
def run? (lexer : Lexer) : List UInt8 → Option Lexer
  | [] => some lexer
  | byte :: rest =>
      match lexer.step? byte with
      | some next => next.run? rest
      | none => none

/-- The tokens, if the text may end here. -/
def finish? (lexer : Lexer) : Option (List (Token (Option String))) :=
  match lexer.mode with
  | .between => some lexer.tokens.reverse
  | .word chars => (wordToken? chars.reverse).map (fun token => (token :: lexer.tokens).reverse)
  | .text _ | .escape _ | .unit _ _ _ => none

end Lexer

/-- The tokens of a text. -/
def tokens? (bytes : List UInt8) : Option (List (Token (Option String))) :=
  (({} : Lexer).run? bytes).bind Lexer.finish?

end VmToolchain.Json
