import VmToolchain.Text.CodePoints

/-! Texts brought to a width, hexadecimal digits, and texts in quotes. -/

namespace VmToolchain.Text

-----------------------------------------------------------------------------------------
-- Widths
-----------------------------------------------------------------------------------------

/-- A character as often as is asked for. -/
def repeated (count : Nat) (c : Char) : String :=
  String.ofList (List.replicate count c)

/-- The text with blanks behind it, up to the width. -/
def padRight (width : Nat) (text : String) : String :=
  text ++ repeated (width - text.length) ' '

/-- The text with fill characters before it, up to the width. -/
def padLeft (fill : Char) (width : Nat) (text : String) : String :=
  repeated (width - text.length) fill ++ text

-----------------------------------------------------------------------------------------
-- Hexadecimal digits
-----------------------------------------------------------------------------------------

/-- The digit for a value below sixteen. -/
def hexDigit (value : Nat) : Char :=
  if value < 10 then Char.ofNat (48 + value) else Char.ofNat (87 + value)

/-- Two digits for a byte. -/
def hexByte (byte : UInt8) : List Char :=
  [hexDigit (byte.toNat / 16), hexDigit (byte.toNat % 16)]

/-- The value of a digit in either case. -/
def hexValue? (c : Char) : Option Nat :=
  if '0' ≤ c ∧ c ≤ '9' then some (c.toNat - 48)
  else if 'a' ≤ c ∧ c ≤ 'f' then some (c.toNat - 87)
  else if 'A' ≤ c ∧ c ≤ 'F' then some (c.toNat - 55)
  else none

-----------------------------------------------------------------------------------------
-- Quoted text
-----------------------------------------------------------------------------------------

/-- The escape by code point: lower-case hexadecimal digits in braces, without leading zeros. -/
def codePointEscape (c : Char) : List Char :=
  ['\\', 'u', '\x7b'] ++ Nat.toDigits 16 c.toNat ++ ['\x7d']

/-- One character inside quotes. -/
def quotedChar (c : Char) : List Char :=
  if c = '\x00' then ['\\', '0']
  else if c = '\t' then ['\\', 't']
  else if c = '\r' then ['\\', 'r']
  else if c = '\n' then ['\\', 'n']
  else if c = '\"' then ['\\', '\"']
  else if c = '\\' then ['\\', '\\']
  else if extendsGrapheme c || !isPrintable c then codePointEscape c
  else [c]

/-- The text in double quotes. -/
def quoted (text : String) : String :=
  String.ofList ('\"' :: text.toList.flatMap quotedChar ++ ['\"'])

end VmToolchain.Text
