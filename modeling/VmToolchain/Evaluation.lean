import VmToolchain.Expr.Basic
import VmToolchain.Trace.Basic

/-! Evaluation at compile time. `Expr.evaluate` gives a node's value as far as it is known, and
`Expr.infer` the verdict of the type rule at the root.
-/

namespace VmToolchain

/-- What becomes of known operands on which the type rule has no verdict. -/
inductive Policy where
  /-- The fold rule decides. -/
  | lenient
  /-- They are refused. -/
  | strict
deriving DecidableEq, Repr

/-- The verdict and the value of an operator on evaluated operands: the type rule first, then the
policy, then the fold rule.
-/
def Operator.conclude (op : Operator) (policy : Policy) (operands : List TypedValue)
    : Except FoldError (Category × TypedValue) := do
  let verdict ← op.inferType operands
  if policy = .strict ∧ verdict = .unknown ∧ operands.all TypedValue.isKnown then
    .error (.typeMismatch op (operands.map TypedValue.category))
  else
    let result ← op.fold operands
    return (verdict, result)

namespace Policy

/-- Applies an operator to operands whose evaluation is given. An operator without rules fails at
once, and its operands are left alone.
-/
@[inline]
def apply (policy : Policy) (op : Operator) (operands : Unit → Traced (List TypedValue))
    : Traced TypedValue :=
  if op.hasRules then
    let evaluated := operands ()
    match evaluated.result with
    | .error error => ⟨.enter op :: evaluated.events ++ [.failure op error], .error error⟩
    | .ok values =>
        match op.conclude policy values with
        | .error error => ⟨.enter op :: evaluated.events ++ [.failure op error], .error error⟩
        | .ok (verdict, result) =>
            ⟨.enter op :: evaluated.events ++ [.apply op values verdict result], .ok result⟩
  else .ofExcept (.error (.notImplemented op .type))

/-- The verdict of the type rule on operands whose evaluation is given. Only the operands leave a
trace.
-/
@[inline]
def inferApply (op : Operator) (operands : Unit → Traced (List TypedValue)) : Traced Category :=
  if op.hasRules then do
    let values ← operands ()
    .ofExcept (op.inferType values)
  else .ofExcept (.error (.notImplemented op .type))

end Policy

namespace Expr

mutual

/-- The value of the expression. A variable is unknown, of the category of its declared type. Calls
and lambdas are applications of operators that have no rules.
-/
def evaluate (policy : Policy) : Expr → Traced TypedValue
  | .literal value => .leaf (.known value)
  | .var _ none => .leaf (.unknown .unknown)
  | .var _ (some type) => .leaf (.unknown type.category)
  | .apply op operands => policy.apply op (fun _ => evaluateAll policy operands)
  | .call _ args => policy.apply .functionCall (fun _ => evaluateAll policy args)
  | .lambda _ _ => policy.apply .arrow (fun _ => pure [])

/-- The values of the expressions, left to right, up to the first that fails. -/
def evaluateAll (policy : Policy) : List Expr → Traced (List TypedValue)
  | [] => pure []
  | e :: rest => do
      let value ← evaluate policy e
      (value :: ·) <$> evaluateAll policy rest

end

/-- The verdict of the type rule at the root; a leaf has the category of its value. -/
def infer (policy : Policy) : Expr → Traced Category
  | .apply op operands => Policy.inferApply op (fun _ => evaluateAll policy operands)
  | .call _ args => Policy.inferApply .functionCall (fun _ => evaluateAll policy args)
  | .lambda _ _ => Policy.inferApply .arrow (fun _ => pure [])
  | .literal value => TypedValue.category <$> evaluate policy (.literal value)
  | .var name type => TypedValue.category <$> evaluate policy (.var name type)

end Expr

end VmToolchain
