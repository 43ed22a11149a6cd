import VmToolchain.Text.Basic

/-! JSON documents and their written forms. -/

namespace VmToolchain

/-- A JSON document whose strings are values of `τ`. A number is kept as it is written. Writing
takes strings for `τ`; reading also meets string literals that spell no Unicode text.
-/
inductive Json (τ : Type) where
  | null
  | bool (value : Bool)
  | number (literal : String)
  | text (content : τ)
  | list (items : List (Json τ))
  | object (fields : List (τ × Json τ))

namespace Json

/-- The number that stands for an integer. -/
def ofInt {τ : Type} (value : Int) : Json τ :=
  .number value.repr

/-- One character inside a string literal: the quote, the backslash and the controls below U+0020
are escaped, and nothing else.
-/
def escapedChar (c : Char) : List Char :=
  if c = '\"' then ['\\', '\"']
  else if c = '\\' then ['\\', '\\']
  else if c = '\x08' then ['\\', 'b']
  else if c = '\t' then ['\\', 't']
  else if c = '\n' then ['\\', 'n']
  else if c = '\x0c' then ['\\', 'f']
  else if c = '\r' then ['\\', 'r']
  else if c.toNat < 0x20 then ['\\', 'u', '0', '0'] ++ Text.hexByte c.toNat.toUInt8
  else [c]

/-- Appends the string literal that spells the text. -/
def writeLiteral (out text : String) : String :=
  (text.toList.foldl (fun out c => (escapedChar c).foldl String.push out) (out.push '\"')).push '\"'

mutual

/-- Appends the document on one line, without blanks. -/
def write (out : String) : Json String → String
  | .null => out ++ "null"
  | .bool true => out ++ "true"
  | .bool false => out ++ "false"
  | .number literal => out ++ literal
  | .text content => writeLiteral out content
  | .list items => writeItems (out ++ "[") items ++ "]"
  | .object fields => writeFields (out ++ "\x7b") fields ++ "\x7d"

def writeItems (out : String) : List (Json String) → String
  | [] => out
  | [item] => item.write out
  | item :: rest => writeItems (item.write out ++ ",") rest

def writeFields (out : String) : List (String × Json String) → String
  | [] => out
  | [(key, value)] => value.write (writeLiteral out key ++ ":")
  | (key, value) :: rest => writeFields (value.write (writeLiteral out key ++ ":") ++ ",") rest

end

/-- The document on one line, without blanks. -/
def render (json : Json String) : String :=
  json.write ""

/-- A line break, then two blanks for each level. -/
def lineBreak (level : Nat) : String :=
  "\n" ++ Text.repeated (2 * level) ' '

mutual

/-- Appends the document with one item or field on each line, indented by two blanks a level. -/
def writeIndented (level : Nat) (out : String) : Json String → String
  | .list [] => out ++ "[]"
  | .list items => writeIndentedItems (level + 1) (out ++ "[") items ++ lineBreak level ++ "]"
  | .object [] => out ++ "\x7b\x7d"
  | .object fields =>
      writeIndentedFields (level + 1) (out ++ "\x7b") fields ++ lineBreak level ++ "\x7d"
  | .null => write out .null
  | .bool value => write out (.bool value)
  | .number literal => write out (.number literal)
  | .text content => write out (.text content)

def writeIndentedItems (level : Nat) (out : String) : List (Json String) → String
  | [] => out
  | [item] => item.writeIndented level (out ++ lineBreak level)
  | item :: rest =>
      writeIndentedItems level (item.writeIndented level (out ++ lineBreak level) ++ ",") rest

def writeIndentedFields (level : Nat) (out : String) : List (String × Json String) → String
  | [] => out
  | [(key, value)] =>
      value.writeIndented level (writeLiteral (out ++ lineBreak level) key ++ ": ")
  | (key, value) :: rest =>
      writeIndentedFields level
        (value.writeIndented level (writeLiteral (out ++ lineBreak level) key ++ ": ") ++ ",") rest

end

/-- The document over several lines. -/
def renderIndented (json : Json String) : String :=
  json.writeIndented 0 ""

end Json

end VmToolchain
