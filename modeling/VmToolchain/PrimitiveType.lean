import VmToolchain.Category

/-! Primitive types, which a variable may be declared with, and failed lookups of names. -/

namespace VmToolchain

/-- A text that names nothing of the sought kind. -/
inductive LookupError where
  | unknownType (symbol : String)
  | unknownOperator (symbol : String)
deriving DecidableEq, Repr

/-- The message shown for a failed lookup. -/
def LookupError.message : LookupError → String
  | .unknownType symbol => "unknown type '" ++ symbol ++ "'"
  | .unknownOperator symbol => "unknown operator symbol '" ++ symbol ++ "'"

/-- The closed set of types that have a name. -/
inductive PrimitiveType where
  | int8
  | string
deriving DecidableEq, Repr

namespace PrimitiveType

/-- All primitive types, in the order in which they are listed. -/
def all : List PrimitiveType :=
  [.int8, .string]

/-- The type's name, in expressions and in JSON. -/
def symbol : PrimitiveType → String
  | .int8 => "int8"
  | .string => "string"

/-- The category of the values of the type. -/
def category : PrimitiveType → Category
  | .int8 => .integral
  | .string => .stringLike

/-- The type with exactly this name. -/
def ofSymbol? (symbol : String) : Option PrimitiveType :=
  all.find? (fun type => type.symbol == symbol)

/-- As `ofSymbol?`, a missing type being an error. -/
def resolve (symbol : String) : Except LookupError PrimitiveType :=
  match ofSymbol? symbol with
  | some type => .ok type
  | none => .error (.unknownType symbol)

end PrimitiveType

end VmToolchain
