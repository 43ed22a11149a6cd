import VmToolchain.Folding
import VmToolchain.Trace.Printer

/-! Sessions: one policy and one trace printer for a sequence of computations. -/

namespace VmToolchain

/-- A session without a printer keeps no trace. -/
structure Session where
  policy : Policy
  printer : Option TracePrinter := none

namespace Session

/-- Shows the events of a computation that ran under the session's policy and hands on its
result.
-/
def record {α : Type} (session : Session) (computation : Policy → Traced α)
    : Except FoldError α × Session :=
  let traced := computation session.policy
  let printer := session.printer.map (fun printer => printer.handleAll traced.events)
  (traced.result, { session with printer })

/-- Evaluates an expression. -/
def evaluate (session : Session) (e : Expr) : Except FoldError TypedValue × Session :=
  session.record (fun policy => e.evaluate policy)

/-- Infers the category of an expression. -/
def infer (session : Session) (e : Expr) : Except FoldError Category × Session :=
  session.record (fun policy => e.infer policy)

/-- Folds an expression. -/
def fold (session : Session) (e : Expr) : Except FoldError Expr × Session :=
  session.record (fun policy => e.fold policy)

/-- Applies an operator to expressions that belong to no tree. -/
def apply (session : Session) (op : Operator) (operands : List Expr)
    : Except FoldError TypedValue × Session :=
  session.record (fun policy => policy.apply op (fun _ => Expr.evaluateAll policy operands))

/-- Infers the category of such an application. -/
def inferApply (session : Session) (op : Operator) (operands : List Expr)
    : Except FoldError Category × Session :=
  session.record (fun policy => Policy.inferApply op (fun _ => Expr.evaluateAll policy operands))

/-- Applies an operator to leaves with the given values, which may be of any category. -/
def applyValues (session : Session) (op : Operator) (values : List TypedValue)
    : Except FoldError TypedValue × Session :=
  session.record (fun policy => policy.apply op (fun _ => .leaves values))

/-- Infers the category of an application to such leaves. -/
def inferValues (session : Session) (op : Operator) (values : List TypedValue)
    : Except FoldError Category × Session :=
  session.record (fun _ => Policy.inferApply op (fun _ => .leaves values))

/-- Evaluates a leaf with the given value. -/
def leaf (session : Session) (value : TypedValue) : Except FoldError TypedValue × Session :=
  session.record (fun _ => .leaf value)

end Session

end VmToolchain
