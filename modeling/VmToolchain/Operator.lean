import VmToolchain.PrimitiveType

/-! Operators and the symbols by which they are recognised in program text. -/

namespace VmToolchain

/-- The operators of the language. A call has no symbol: its shape, not a token, makes it one. -/
inductive Operator where
  | plus
  | minus
  | assignment
  | arrow
  | functionCall
deriving DecidableEq, Repr

namespace Operator

/-- All operators, in the order in which they are listed. -/
def all : List Operator :=
  [.plus, .minus, .assignment, .arrow, .functionCall]

/-- The operator's name, in messages and in JSON. -/
def name : Operator → String
  | .plus => "PLUS"
  | .minus => "MINUS"
  | .assignment => "ASSIGNMENT"
  | .arrow => "ARROW"
  | .functionCall => "FUNCTION_CALL"

/-- The operator with exactly this name. -/
def ofName? (name : String) : Option Operator :=
  all.find? (fun op => op.name == name)

/-- The operator's symbol; empty for a call. -/
def symbol : Operator → String
  | .plus => "+"
  | .minus => "-"
  | .assignment => "="
  | .arrow => "=>"
  | .functionCall => ""

/-- Whether a token of program text can stand for the operator. -/
def isLexical : Operator → Bool
  | .functionCall => false
  | _ => true

/-- Whether the operator stands between its operands, which all of them do. -/
def isInfix : Operator → Bool := fun _ => true

/-- Whether the operator computes a new value. -/
def isArithmetic : Operator → Bool
  | .plus | .minus => true
  | .assignment | .arrow | .functionCall => false

/-- Whether the operator has a type rule and a fold rule. -/
def hasRules : Operator → Bool
  | .plus | .minus | .assignment => true
  | .arrow | .functionCall => false

/-- The number of operands, if it is fixed. -/
def arity : Operator → Option Nat
  | .functionCall => none
  | _ => some 2

/-- The operators that tokens can stand for. -/
def lexical : List Operator :=
  all.filter isLexical

/-- Whether the text is the symbol of such an operator. -/
def isSymbol (text : String) : Bool :=
  lexical.any (fun op => op.symbol == text)

/-- Whether the symbol of such an operator starts with the character. -/
def startsSymbol (c : Char) : Bool :=
  lexical.any (fun op => op.symbol.toList.head? == some c)

/-- The operators with this symbol, in listing order. -/
def withSymbol (text : String) : List Operator :=
  lexical.filter (fun op => op.symbol == text)

/-- As `withSymbol`, an unknown symbol being an error. -/
def lookup (text : String) : Except LookupError (List Operator) :=
  match withSymbol text with
  | [] => .error (.unknownOperator text)
  | op :: more => .ok (op :: more)

end Operator

end VmToolchain
