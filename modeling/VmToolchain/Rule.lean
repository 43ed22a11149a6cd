import VmToolchain.Operator
import VmToolchain.Value

/-! The type rule and the fold rule of each operator, on operands that are already values.
The two rules are independent: a fold rule may give an integral value where the type rule gives
no verdict.
-/

namespace VmToolchain

/-- The two rules an operator may have. -/
inductive RuleKind where
  | type
  | fold
deriving DecidableEq, Repr

/-- The rule's name in messages. -/
def RuleKind.name : RuleKind → String
  | .type => "type rule"
  | .fold => "fold rule"

/-- Why an operator cannot be applied. -/
inductive FoldError where
  /-- The operator has no rule of this kind. -/
  | notImplemented (op : Operator) (rule : RuleKind)
  /-- The number of operands is wrong. -/
  | arity (op : Operator) (expected actual : Nat)
  /-- An operand of arithmetic is known and no integer. -/
  | notNumeric (op : Operator) (value : Constant)
  /-- The type rule has no verdict on known operands of these categories. -/
  | typeMismatch (op : Operator) (categories : List Category)
deriving DecidableEq

/-- The message shown for a failed application. -/
def FoldError.message : FoldError → String
  | .notImplemented op rule => rule.name ++ " not implemented for " ++ op.name
  | .arity op expected actual =>
      op.name ++ " expects " ++ expected.repr ++ " operands, got " ++ actual.repr
  | .notNumeric op value => op.name ++ " cannot fold non-numeric operand " ++ value.display
  | .typeMismatch op categories =>
      "type mismatch: " ++ op.name ++ " is not defined over ("
        ++ ", ".intercalate (categories.map Category.name) ++ ")"

namespace Operator

/-- The two operands of a binary operator. -/
def operandPair (op : Operator) : List TypedValue → Except FoldError (TypedValue × TypedValue)
  | [left, right] => .ok (left, right)
  | operands => .error (.arity op 2 operands.length)

/-- The integer behind an operand of arithmetic. -/
def numericOperand (op : Operator) : Constant → Except FoldError Int64
  | .int value => .ok value
  | .str text => .error (.notNumeric op (.str text))

/-- Arithmetic on two operands. One unknown operand makes the result unknown, whatever the
other is; otherwise both must be integers, the left one being looked at first.
-/
def foldIntegers (op : Operator) (compute : Int64 → Int64 → Int64) (left right : TypedValue)
    : Except FoldError TypedValue :=
  match left.constant?, right.constant? with
  | some a, some b => do
      let m ← op.numericOperand a
      let n ← op.numericOperand b
      return ⟨some (.int (compute m n)), .integral⟩
  | _, _ => .ok (.unknown .integral)

/-- The type rule: the category of the result. An assignment has the category of its value, which
is the first operand; its target is never looked at.
-/
def inferType (op : Operator) (operands : List TypedValue) : Except FoldError Category :=
  match op with
  | .plus | .minus => do
      let (left, right) ← op.operandPair operands
      return if left.category.isIntegral && right.category.isIntegral then .integral else .unknown
  | .assignment => do
      let (value, _) ← op.operandPair operands
      return value.category
  | .arrow | .functionCall => .error (.notImplemented op .type)

/-- The fold rule: the result's value at compile time. Sums and differences wrap around at 64
bits.
-/
def fold (op : Operator) (operands : List TypedValue) : Except FoldError TypedValue :=
  match op with
  | .plus => do
      let (left, right) ← op.operandPair operands
      op.foldIntegers (· + ·) left right
  | .minus => do
      let (left, right) ← op.operandPair operands
      op.foldIntegers (· - ·) left right
  | .assignment => do
      let (value, _) ← op.operandPair operands
      return value
  | .arrow | .functionCall => .error (.notImplemented op .fold)

end Operator

end VmToolchain
