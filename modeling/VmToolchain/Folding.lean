import VmToolchain.Evaluation

/-! Constant folding: arithmetic over literals collapses to a literal. -/

namespace VmToolchain.Expr

/-- A node whose operands are already folded: arithmetic over literals alone is evaluated, and
gives way to its value if that is known.
-/
def collapse (policy : Policy) (op : Operator) (operands : List Expr) : Traced Expr :=
  if op.isArithmetic && operands.all isLiteral then do
    let value ← evaluate policy (.apply op operands)
    match value.constant? with
    | some constant => return .literal constant
    | none => return .apply op operands
  else pure (.apply op operands)

mutual

/-- Folds the expression from the leaves up. Lambdas and applications without rules stay as they
are; of a call, the callee and the arguments are folded.
-/
def fold (policy : Policy) : Expr → Traced Expr
  | .literal value => pure (.literal value)
  | .var name type => pure (.var name type)
  | .lambda params body => pure (.lambda params body)
  | .call callee args => do
      let callee ← fold policy callee
      Expr.call callee <$> foldAll policy args
  | .apply op operands =>
      if op.hasRules then do
        let operands ← foldAll policy operands
        collapse policy op operands
      else pure (.apply op operands)

/-- Folds the expressions left to right, up to the first that fails. -/
def foldAll (policy : Policy) : List Expr → Traced (List Expr)
  | [] => pure []
  | e :: rest => do
      let e ← fold policy e
      (e :: ·) <$> foldAll policy rest

end

end VmToolchain.Expr
