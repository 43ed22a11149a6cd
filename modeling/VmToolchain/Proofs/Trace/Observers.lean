import VmToolchain.Proofs.Evaluation.Values
import VmToolchain.Session

/-! Computations that are watched while they run. An observer is told of every event at the moment it
happens, and its state goes from step to step, also past failures. A computation does not depend on
it: watched or not, it ends with the same result, and the observer has seen the events that are
recorded, in their order.
-/

namespace VmToolchain

-----------------------------------------------------------------------------------------
-- Watched computations
-----------------------------------------------------------------------------------------

/-- A computation that passes on the state of an observer. -/
abbrev Watched (σ α : Type) := ExceptT FoldError (StateM σ) α

section Watching

variable {σ α β : Type} (observe : σ → TraceEvent → σ)

/-- The observer is told of an event. -/
def tell (event : TraceEvent) : Watched σ Unit :=
  modify (fun state => observe state event)

/-- A leaf shows its value and gives it. -/
def watchLeaf (value : TypedValue) : Watched σ TypedValue := do
  tell observe (.leaf value)
  return value

/-- Evaluates the operands and applies an operator with rules to them. The observer is told of the
application if it comes to a result.
-/
def watchConclude (policy : Policy) (op : Operator) (operands : Watched σ (List TypedValue))
    : Watched σ TypedValue := do
  let values ← operands
  let (verdict, result) ← liftExcept (op.conclude policy values)
  tell observe (.apply op values verdict result)
  return result

/-- Applies an operator. The observer is told when it is entered, and of its failure. -/
def watchApply (policy : Policy) (op : Operator) (operands : Watched σ (List TypedValue))
    : Watched σ TypedValue :=
  if op.hasRules then do
    tell observe (.enter op)
    tryCatch (watchConclude observe policy op operands) (fun error => do
      tell observe (.failure op error)
      throw error)
  else throw (.notImplemented op .type)

/-- The verdict of the type rule; only the operands have anything to tell. -/
def watchInferApply (op : Operator) (operands : Watched σ (List TypedValue))
    : Watched σ Category :=
  if op.hasRules then do
    let values ← operands
    liftExcept (op.inferType values)
  else throw (.notImplemented op .type)

namespace Expr

mutual

/-- Evaluates the expression under the eyes of the observer. -/
def watchEvaluate (policy : Policy) : Expr → Watched σ TypedValue
  | .literal value => watchLeaf observe (.known value)
  | .var _ none => watchLeaf observe (.unknown .unknown)
  | .var _ (some type) => watchLeaf observe (.unknown type.category)
  | .apply op operands => watchApply observe policy op (watchEvaluateAll policy operands)
  | .call _ args => watchApply observe policy .functionCall (watchEvaluateAll policy args)
  | .lambda _ _ => watchApply observe policy .arrow (pure [])

def watchEvaluateAll (policy : Policy) : List Expr → Watched σ (List TypedValue)
  | [] => pure []
  | e :: rest => do
      let value ← watchEvaluate policy e
      (value :: ·) <$> watchEvaluateAll policy rest

end

/-- Infers the category of the expression. -/
def watchInfer (policy : Policy) : Expr → Watched σ Category
  | .apply op operands => watchInferApply op (watchEvaluateAll observe policy operands)
  | .call _ args => watchInferApply .functionCall (watchEvaluateAll observe policy args)
  | .lambda _ _ => watchInferApply .arrow (pure [])
  | .literal value => TypedValue.category <$> watchEvaluate observe policy (.literal value)
  | .var name type => TypedValue.category <$> watchEvaluate observe policy (.var name type)

/-- A node whose operands are folded. -/
def watchCollapse (policy : Policy) (op : Operator) (operands : List Expr) : Watched σ Expr :=
  if op.isArithmetic && operands.all isLiteral then do
    let value ← watchEvaluate observe policy (.apply op operands)
    match value.constant? with
    | some constant => return .literal constant
    | none => return .apply op operands
  else return .apply op operands

mutual

/-- Folds the expression. -/
def watchFold (policy : Policy) : Expr → Watched σ Expr
  | .literal value => return .literal value
  | .var name type => return .var name type
  | .lambda params body => return .lambda params body
  | .call callee args => do
      let callee ← watchFold policy callee
      Expr.call callee <$> watchFoldAll policy args
  | .apply op operands =>
      if op.hasRules then do
        let operands ← watchFoldAll policy operands
        watchCollapse observe policy op operands
      else return .apply op operands

def watchFoldAll (policy : Policy) : List Expr → Watched σ (List Expr)
  | [] => pure []
  | e :: rest => do
      let e ← watchFold policy e
      (e :: ·) <$> watchFoldAll policy rest

end

end Expr

end Watching

namespace Watched

variable {σ α β : Type} {watched : Watched σ α} {next : α → Watched σ β}
  {handler : FoldError → Watched σ α} {state after : σ} {value : α} {error : FoldError}

theorem run_bind_of_ok (h : watched.run.run state = (.ok value, after))
    : (watched >>= next).run.run state = (next value).run.run after := by
  rw [ExceptT.run_bind, StateT.run_bind, h]
  rfl

theorem run_bind_of_error (h : watched.run.run state = (.error error, after))
    : (watched >>= next).run.run state = (.error error, after) := by
  rw [ExceptT.run_bind, StateT.run_bind, h]
  rfl

theorem run_tryCatch_of_ok (h : watched.run.run state = (.ok value, after))
    : (tryCatch watched handler).run.run state = (.ok value, after) := by
  rw [ExceptT.run_tryCatch, StateT.run_bind, h]
  rfl

theorem run_tryCatch_of_error (h : watched.run.run state = (.error error, after))
    : (tryCatch watched handler).run.run state = (handler error).run.run after := by
  rw [ExceptT.run_tryCatch, StateT.run_bind, h]
  rfl

end Watched

section Application

variable {σ : Type} {observe : σ → TraceEvent → σ} {policy : Policy} {op : Operator}
  {operands : Watched σ (List TypedValue)} {state after : σ}

/-- An operator with rules is entered, and then it comes to a result or is caught failing. -/
theorem run_watchApply (rules : op.hasRules = true)
    : (watchApply observe policy op operands).run.run state
      = (tryCatch (watchConclude observe policy op operands) (fun error => do
          tell observe (.failure op error)
          throw error)).run.run (observe state (.enter op)) := by
  rw [watchApply, if_pos rules]
  exact Watched.run_bind_of_ok rfl

/-- An application that comes to a result has nothing more to tell. -/
theorem run_watchApply_of_ok {result : TypedValue} (rules : op.hasRules = true)
    (ended : (watchConclude observe policy op operands).run.run (observe state (.enter op))
      = (.ok result, after))
    : (watchApply observe policy op operands).run.run state = (.ok result, after) :=
  (run_watchApply rules).trans (Watched.run_tryCatch_of_ok ended)

/-- An application that fails tells of it, wherever the failure comes from. -/
theorem run_watchApply_of_error {error : FoldError} (rules : op.hasRules = true)
    (ended : (watchConclude observe policy op operands).run.run (observe state (.enter op))
      = (.error error, after))
    : (watchApply observe policy op operands).run.run state
      = (.error error, observe after (.failure op error)) :=
  (run_watchApply rules).trans (Watched.run_tryCatch_of_error ended)

end Application

-----------------------------------------------------------------------------------------
-- What an observer has seen
-----------------------------------------------------------------------------------------

/-- How an operator with rules is applied: an operand fails, or the operator does on their values, or
it comes to a result.
-/
theorem Policy.apply_cases (policy : Policy) {op : Operator} (rules : op.hasRules = true)
    (operands : Unit → Traced (List TypedValue))
    : (∃ error,
        (operands ()).result = .error error
        ∧ policy.apply op operands
          = ⟨.enter op :: (operands ()).events ++ [.failure op error], .error error⟩)
      ∨ (∃ values error,
          (operands ()).result = .ok values
          ∧ op.conclude policy values = .error error
          ∧ policy.apply op operands
            = ⟨.enter op :: (operands ()).events ++ [.failure op error], .error error⟩)
      ∨ ∃ values verdict result,
          (operands ()).result = .ok values
          ∧ op.conclude policy values = .ok (verdict, result)
          ∧ policy.apply op operands
            = ⟨.enter op :: (operands ()).events ++ [.apply op values verdict result],
                .ok result⟩ := by
  unfold Policy.apply
  rw [if_pos rules]
  dsimp only
  cases evaluated : (operands ()).result with
  | error error => exact Or.inl ⟨error, rfl, rfl⟩
  | ok values =>
      refine Or.inr ?_
      dsimp only
      cases concluded : op.conclude policy values with
      | error error => exact Or.inl ⟨values, error, rfl, concluded, rfl⟩
      | ok pair => exact Or.inr ⟨values, pair.1, pair.2, rfl, concluded, rfl⟩

/-- The recorded computation stands for the watched one: whatever state the observer starts in, they
end with the same result, and the observer has been told of the recorded events in order.
-/
def Traced.Records {σ α : Type} (observe : σ → TraceEvent → σ) (traced : Traced α)
    (watched : Watched σ α) : Prop :=
  ∀ state, watched.run.run state = (traced.result, traced.events.foldl observe state)

namespace Traced.Records

variable {σ α β : Type} {observe : σ → TraceEvent → σ}

protected theorem pure (value : α) : Records observe (pure value) (pure value) :=
  fun _ => rfl

theorem error (error : FoldError)
    : Records (α := α) observe (.ofExcept (.error error)) (throw error) :=
  fun _ => rfl

theorem ofExcept (result : Except FoldError α)
    : Records observe (.ofExcept result) (liftExcept result) := by
  intro state
  cases result <;> rfl

theorem leaf (value : TypedValue) : Records observe (.leaf value) (watchLeaf observe value) :=
  fun _ => rfl

/-- The run of two steps is recorded in order. -/
protected theorem bind {traced : Traced α} {watched : Watched σ α} {next : α → Traced β}
    {watchedNext : α → Watched σ β} (first : Records observe traced watched)
    (second : ∀ value, Records observe (next value) (watchedNext value))
    : Records observe (traced >>= next) (watched >>= watchedNext) := by
  intro state
  rw [ExceptT.run_bind, StateT.run_bind, first state]
  obtain ⟨events, result⟩ := traced
  cases result with
  | error error => rfl
  | ok value =>
      refine (second value _).trans ?_
      exact congrArg _ List.foldl_append.symm

protected theorem map {traced : Traced α} {watched : Watched σ α} (change : α → β)
    (first : Records observe traced watched)
    : Records observe (change <$> traced) (change <$> watched) := by
  intro state
  rw [ExceptT.run_map, StateT.run_map, first state]
  rfl

/-- The observer sees the operator entered, then the operands, then how the application ends. -/
theorem apply {watched : Watched σ (List TypedValue)} (policy : Policy) (op : Operator)
    (operands : Unit → Traced (List TypedValue)) (inner : Records observe (operands ()) watched)
    : Records observe (policy.apply op operands) (watchApply observe policy op watched) := by
  intro state
  by_cases rules : op.hasRules = true
  · have seen := inner (observe state (.enter op))
    rcases Policy.apply_cases policy rules operands with
      ⟨error, failed, applied⟩ | ⟨values, error, evaluated, failed, applied⟩
      | ⟨values, verdict, result, evaluated, concluded, applied⟩
    · rw [failed] at seen
      rw [applied, run_watchApply_of_error rules (Watched.run_bind_of_error seen)]
      simp
    · rw [evaluated] at seen
      have refused : (watchConclude observe policy op watched).run.run (observe state (.enter op))
          = (.error error, (operands ()).events.foldl observe (observe state (.enter op))) := by
        rw [watchConclude, Watched.run_bind_of_ok seen, failed]
        rfl
      rw [applied, run_watchApply_of_error rules refused]
      simp
    · rw [evaluated] at seen
      have ended : (watchConclude observe policy op watched).run.run (observe state (.enter op))
          = (.ok result,
              observe ((operands ()).events.foldl observe (observe state (.enter op)))
                (.apply op values verdict result)) := by
        rw [watchConclude, Watched.run_bind_of_ok seen, concluded]
        rfl
      rw [applied, run_watchApply_of_ok rules ended]
      simp
  · rw [watchApply, if_neg rules, Policy.apply, if_neg rules]
    rfl

theorem inferApply {watched : Watched σ (List TypedValue)} (op : Operator)
    (operands : Unit → Traced (List TypedValue)) (inner : Records observe (operands ()) watched)
    : Records observe (Policy.inferApply op operands) (watchInferApply op watched) := by
  unfold Policy.inferApply watchInferApply
  split
  · exact inner.bind (fun values => .ofExcept (op.inferType values))
  · exact .error _

end Traced.Records

namespace Expr

variable {σ : Type} (observe : σ → TraceEvent → σ) (policy : Policy)

theorem evaluateAll_recorded {es : List Expr}
    (h : ∀ e ∈ es, (evaluate policy e).Records observe (watchEvaluate observe policy e))
    : (evaluateAll policy es).Records observe (watchEvaluateAll observe policy es) := by
  induction es with
  | nil => exact .pure []
  | cons e rest ih =>
      obtain ⟨head, tail⟩ := List.forall_mem_cons.mp h
      rw [evaluateAll, watchEvaluateAll]
      exact head.bind (fun value => (ih tail).map _)

/-- Evaluation is recorded as it is watched, by induction on the tree. -/
theorem evaluate_recorded (e : Expr)
    : (evaluate policy e).Records observe (watchEvaluate observe policy e) := by
  induction e using treeInduction with
  | literal value =>
      rw [evaluate, watchEvaluate]
      exact .leaf _
  | var name type => cases type <;> rw [evaluate, watchEvaluate] <;> exact .leaf _
  | apply op operands ih =>
      rw [evaluate, watchEvaluate]
      exact .apply policy op _ (evaluateAll_recorded observe policy ih)
  | call callee args _ ih =>
      rw [evaluate, watchEvaluate]
      exact .apply policy .functionCall _ (evaluateAll_recorded observe policy ih)
  | lambda params body _ =>
      rw [evaluate, watchEvaluate]
      exact .apply policy .arrow _ (.pure [])

theorem operands_recorded (es : List Expr)
    : (evaluateAll policy es).Records observe (watchEvaluateAll observe policy es) :=
  evaluateAll_recorded observe policy (fun e _ => evaluate_recorded observe policy e)

theorem infer_recorded (e : Expr)
    : (infer policy e).Records observe (watchInfer observe policy e) := by
  cases e <;> rw [infer, watchInfer]
  case literal => exact (evaluate_recorded observe policy _).map _
  case var => exact (evaluate_recorded observe policy _).map _
  case apply op es => exact .inferApply op _ (operands_recorded observe policy es)
  case call callee args => exact .inferApply .functionCall _ (operands_recorded observe policy args)
  case lambda => exact .inferApply .arrow _ (.pure [])

theorem collapse_recorded (op : Operator) (operands : List Expr)
    : (collapse policy op operands).Records observe (watchCollapse observe policy op operands) := by
  unfold collapse watchCollapse
  split
  · refine (evaluate_recorded observe policy _).bind (fun value => ?_)
    cases value.constant? <;> exact .pure _
  · exact .pure _

theorem foldAll_recorded {es : List Expr}
    (h : ∀ e ∈ es, (fold policy e).Records observe (watchFold observe policy e))
    : (foldAll policy es).Records observe (watchFoldAll observe policy es) := by
  induction es with
  | nil => exact .pure []
  | cons e rest ih =>
      obtain ⟨head, tail⟩ := List.forall_mem_cons.mp h
      rw [foldAll, watchFoldAll]
      exact head.bind (fun value => (ih tail).map _)

/-- Folding is recorded as it is watched, by induction on the tree. -/
theorem fold_recorded (e : Expr)
    : (fold policy e).Records observe (watchFold observe policy e) := by
  induction e using treeInduction with
  | literal _ | var _ _ | lambda _ _ _ =>
      rw [fold, watchFold]
      exact .pure _
  | call callee args first ih =>
      rw [fold, watchFold]
      exact first.bind (fun callee => (foldAll_recorded observe policy ih).map _)
  | apply op operands ih =>
      rw [fold, watchFold]
      split
      · exact (foldAll_recorded observe policy ih).bind (collapse_recorded observe policy op)
      · exact .pure _

end Expr

end VmToolchain
