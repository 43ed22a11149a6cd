import VmToolchain.PrimitiveType
import VmToolchain.Operator
import VmToolchain.Value

/-! Expression trees. -/

namespace VmToolchain

/-- An expression. The operands of an assignment are the value, then the target. -/
inductive Expr where
  | literal (value : Constant)
  | var (name : String) (type : Option PrimitiveType)
  | apply (op : Operator) (operands : List Expr)
  | call (callee : Expr) (args : List Expr)
  | lambda (params : List String) (body : Expr)

namespace Expr

def int (value : Int64) : Expr :=
  .literal (.int value)

def str (value : String) : Expr :=
  .literal (.str value)

/-- A variable declared with the named type. -/
def typedVar (name type : String) : Except LookupError Expr := do
  return .var name (some (← PrimitiveType.resolve type))

def binary (op : Operator) (left right : Expr) : Expr :=
  .apply op [left, right]

/-- An assignment keeps its value before its target. -/
def assign (target value : Expr) : Expr :=
  .apply .assignment [value, target]

/-- The operator at the root. -/
def operator? : Expr → Option Operator
  | .literal _ | .var _ _ => none
  | .apply op _ => some op
  | .call _ _ => some .functionCall
  | .lambda _ _ => some .arrow

/-- The constant of a literal. -/
def literal? : Expr → Option Constant
  | .literal value => some value
  | _ => none

def isLiteral (e : Expr) : Bool :=
  e.literal?.isSome

mutual

/-- The expression in parentheses, operators first. -/
def display : Expr → String
  | .literal value => value.display
  | .var name none => name
  | .var name (some type) => name ++ ":" ++ type.symbol
  | .apply op operands => "(" ++ op.symbol ++ displayAll operands ++ ")"
  | .call callee args => "(call " ++ callee.display ++ displayAll args ++ ")"
  | .lambda params body => "(=> (" ++ " ".intercalate params ++ ") " ++ body.display ++ ")"

/-- The expressions, each after a blank. -/
def displayAll : List Expr → String
  | [] => ""
  | e :: rest => " " ++ e.display ++ displayAll rest

end

mutual

/-- The literals in the order in which they are met from the root, operands and arguments left to
right, callees before arguments, the bodies of lambdas included.
-/
def literals : Expr → List Constant
  | .literal value => [value]
  | .var _ _ => []
  | .apply _ operands => literalsOfAll operands
  | .call callee args => callee.literals ++ literalsOfAll args
  | .lambda _ body => body.literals

def literalsOfAll : List Expr → List Constant
  | [] => []
  | e :: rest => e.literals ++ literalsOfAll rest

end

end Expr

end VmToolchain
