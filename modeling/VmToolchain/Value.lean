import VmToolchain.Category
import VmToolchain.Text.Basic

/-! Constants, and the values that evaluation at compile time gives. -/

namespace VmToolchain

/-- A value known at compile time. Integers have 64 bits and wrap around. -/
inductive Constant where
  | int (value : Int64)
  | str (value : String)
deriving DecidableEq

namespace Constant

def category : Constant → Category
  | .int _ => .integral
  | .str _ => .stringLike

def int? : Constant → Option Int64
  | .int value => some value
  | .str _ => none

def str? : Constant → Option String
  | .int _ => none
  | .str value => some value

/-- An integer in decimal, a string in quotes. -/
def display : Constant → String
  | .int value => value.toInt.repr
  | .str value => Text.quoted value

end Constant

/-- What evaluation says of a node: always a category, and a constant if the value is known. The
category need not be the constant's own.
-/
structure TypedValue where
  constant? : Option Constant
  category : Category
deriving DecidableEq

namespace TypedValue

/-- A constant under its own category. -/
def known (constant : Constant) : TypedValue :=
  ⟨some constant, constant.category⟩

/-- A value of which only the category is known. -/
def unknown (category : Category) : TypedValue :=
  ⟨none, category⟩

/-- Whether there is a constant. -/
def isKnown (value : TypedValue) : Bool :=
  value.constant?.isSome

/-- The constant or a question mark, then the category. -/
def display (value : TypedValue) : String :=
  (match value.constant? with
    | some constant => constant.display
    | none => "?")
  ++ ": " ++ value.category.name

end TypedValue

end VmToolchain
