import VmToolchain.Proofs.Trace.Observers
import VmToolchain.Proofs.Trace.Printing
import VmToolchain.Session

/-! Calls to one session. What a call answers is a matter of the policy alone: neither the printer nor
the calls before it have a part in it, whether those failed or not. The printer only ever adds lines
behind those that it has.
-/

namespace VmToolchain

/-- A computation that a session can be asked for. -/
inductive SessionCall where
  | evaluate (e : Expr)
  | infer (e : Expr)
  | fold (e : Expr)
  | apply (op : Operator) (operands : List Expr)
  | inferApply (op : Operator) (operands : List Expr)
  | applyValues (op : Operator) (values : List TypedValue)
  | inferValues (op : Operator) (values : List TypedValue)
  | leaf (value : TypedValue)

/-- What a session answers: how the computation ended. -/
inductive SessionAnswer where
  | value (result : Except FoldError TypedValue)
  | category (result : Except FoldError Category)
  | tree (result : Except FoldError Expr)

namespace Session

/-- The answer to a call, and the session for the next one. -/
def call (session : Session) : SessionCall → SessionAnswer × Session
  | .evaluate e => (session.evaluate e).map .value id
  | .infer e => (session.infer e).map .category id
  | .fold e => (session.fold e).map .tree id
  | .apply op operands => (session.apply op operands).map .value id
  | .inferApply op operands => (session.inferApply op operands).map .category id
  | .applyValues op values => (session.applyValues op values).map .value id
  | .inferValues op values => (session.inferValues op values).map .category id
  | .leaf value => (session.leaf value).map .value id

/-- The answers to calls one after the other, and the session behind them. -/
def callAll (session : Session) : List SessionCall → List SessionAnswer × Session
  | [] => ([], session)
  | call :: rest =>
      let (answer, next) := session.call call
      let (answers, last) := next.callAll rest
      (answer :: answers, last)

end Session

namespace SessionCall

/-- The answer to a call under a policy, and the events of the computation. -/
def recorded (policy : Policy) : SessionCall → SessionAnswer × List TraceEvent
  | .evaluate e => note .value (e.evaluate policy)
  | .infer e => note .category (e.infer policy)
  | .fold e => note .tree (e.fold policy)
  | .apply op operands => note .value (policy.apply op (fun _ => Expr.evaluateAll policy operands))
  | .inferApply op operands =>
      note .category (Policy.inferApply op (fun _ => Expr.evaluateAll policy operands))
  | .applyValues op values => note .value (policy.apply op (fun _ => .leaves values))
  | .inferValues op values => note .category (Policy.inferApply op (fun _ => .leaves values))
  | .leaf value => note .value (.leaf value)
where
  note {α : Type} (answer : Except FoldError α → SessionAnswer) (traced : Traced α)
      : SessionAnswer × List TraceEvent :=
    (answer traced.result, traced.events)

/-- The call under the eyes of an observer, whose state is passed on whether it fails or not. -/
def watched {σ : Type} (observe : σ → TraceEvent → σ) (policy : Policy)
    : SessionCall → StateM σ SessionAnswer
  | .evaluate e => .value <$> (e.watchEvaluate observe policy).run
  | .infer e => .category <$> (e.watchInfer observe policy).run
  | .fold e => .tree <$> (e.watchFold observe policy).run
  | .apply op operands =>
      .value <$> (watchApply observe policy op (Expr.watchEvaluateAll observe policy operands)).run
  | .inferApply op operands =>
      .category <$> (watchInferApply op (Expr.watchEvaluateAll observe policy operands)).run
  | .applyValues op values =>
      .value <$> (watchApply observe policy op (values.mapM (watchLeaf observe))).run
  | .inferValues op values =>
      .category <$> (watchInferApply op (values.mapM (watchLeaf observe))).run
  | .leaf value => .value <$> (watchLeaf observe value).run

end SessionCall

-----------------------------------------------------------------------------------------
-- One call
-----------------------------------------------------------------------------------------

/-- A call answers what is recorded under the session's policy, and the printer shows the events. -/
theorem Session.call_eq (session : Session) (call : SessionCall)
    : session.call call
      = ((call.recorded session.policy).1,
          { session with
            printer := session.printer.map (·.handleAll (call.recorded session.policy).2) }) := by
  cases call <;> rfl

section Watching

variable {σ : Type} (observe : σ → TraceEvent → σ) (policy : Policy)

theorem Traced.leaves_recorded (values : List TypedValue)
    : (Traced.leaves values).Records observe (values.mapM (watchLeaf observe)) := by
  induction values with
  | nil => exact .pure []
  | cons value rest ih =>
      have step : leaves (value :: rest)
          = leaf value >>= fun value => (value :: ·) <$> leaves rest := rfl
      rw [step, List.mapM_cons]
      exact (Records.leaf value).bind (fun value => ih.map _)

theorem Traced.Records.answer {α : Type} {observe : σ → TraceEvent → σ} {traced : Traced α}
    {watched : Watched σ α} (h : traced.Records observe watched)
    (answer : Except FoldError α → SessionAnswer) (state : σ)
    : (answer <$> watched.run).run state
      = (answer traced.result, traced.events.foldl observe state) := by
  rw [StateT.run_map, h state]
  rfl

/-- A call that is watched answers what is recorded, and the observer sees the recorded events. -/
theorem SessionCall.watched_run (call : SessionCall) (state : σ)
    : (call.watched observe policy).run state
      = ((call.recorded policy).1, (call.recorded policy).2.foldl observe state) := by
  have operands := Expr.operands_recorded observe policy
  have leaves := Traced.leaves_recorded observe
  cases call with
  | evaluate e => exact (Expr.evaluate_recorded observe policy e).answer .value state
  | infer e => exact (Expr.infer_recorded observe policy e).answer .category state
  | fold e => exact (Expr.fold_recorded observe policy e).answer .tree state
  | apply op es =>
      exact (Traced.Records.apply policy op _ (operands es)).answer .value state
  | inferApply op es =>
      exact (Traced.Records.inferApply op _ (operands es)).answer .category state
  | applyValues op values =>
      exact (Traced.Records.apply policy op _ (leaves values)).answer .value state
  | inferValues op values =>
      exact (Traced.Records.inferApply op _ (leaves values)).answer .category state
  | leaf value => exact (Traced.Records.leaf value).answer .value state

end Watching

-----------------------------------------------------------------------------------------
-- Calls one after the other
-----------------------------------------------------------------------------------------

namespace SessionCall

/-- The answers to calls under a policy, each of them on its own. -/
def answers (policy : Policy) (calls : List SessionCall) : List SessionAnswer :=
  calls.map (fun call => (call.recorded policy).1)

/-- The events of calls, one after the other. -/
def events (policy : Policy) (calls : List SessionCall) : List TraceEvent :=
  calls.flatMap (fun call => (call.recorded policy).2)

/-- Calls under the eyes of one observer. -/
def watchAll {σ : Type} (observe : σ → TraceEvent → σ) (policy : Policy)
    (calls : List SessionCall) : StateM σ (List SessionAnswer) :=
  calls.mapM (watched observe policy)

theorem answers_eq_fresh (policy : Policy) (calls : List SessionCall)
    : answers policy calls = calls.map (fun call => (Session.call ⟨policy, none⟩ call).1) := by
  simp only [answers, Session.call_eq]

/-- An observer that is passed on from call to call sees all the events in order, and the answers are
those of the calls alone.
-/
theorem watchAll_run {σ : Type} (observe : σ → TraceEvent → σ) (policy : Policy)
    (calls : List SessionCall) (state : σ)
    : (watchAll observe policy calls).run state
      = (answers policy calls, (events policy calls).foldl observe state) := by
  induction calls generalizing state with
  | nil => rfl
  | cons call rest ih =>
      have later := ih ((call.recorded policy).2.foldl observe state)
      rw [watchAll] at later
      rw [watchAll, List.mapM_cons, StateT.run_bind, watched_run]
      change (rest.mapM (watched observe policy) >>= fun answers =>
        pure ((call.recorded policy).1 :: answers)).run _ = _
      rw [StateT.run_bind, later]
      simp only [events, List.flatMap_cons, List.foldl_append]
      rfl

end SessionCall

namespace Session

/-- Calls to a session are answered as each of them is alone, and the printer shows all events. -/
theorem callAll_eq (session : Session) (calls : List SessionCall)
    : session.callAll calls
      = (SessionCall.answers session.policy calls,
          { session with
            printer := session.printer.map
              (·.handleAll (SessionCall.events session.policy calls)) }) := by
  induction calls generalizing session with
  | nil =>
      obtain ⟨policy, printer⟩ := session
      cases printer <;> rfl
  | cons call rest ih =>
      rw [callAll, call_eq]
      dsimp only
      rw [ih]
      obtain ⟨policy, printer⟩ := session
      cases printer with
      | none => rfl
      | some printer =>
          simp [SessionCall.answers, SessionCall.events, TracePrinter.handleAll]

/-- Tracing and history have no part in any answer. Whatever the printer has shown before, at whatever
depth it stands, and whatever calls came earlier, each call is answered as a new session without a
printer answers it alone. It is the same if an observer is told of each event at the moment it happens,
and a printer that is told so ends as that of the session. The lines that are there before a call stay
as they are, in front of those that it adds.
-/
theorem answers_ignore_tracing_and_history (policy : Policy) (printer : TracePrinter)
    (earlier later : List SessionCall)
    : (callAll ⟨policy, some printer⟩ (earlier ++ later)).1
        = (earlier ++ later).map (fun asked => (call ⟨policy, none⟩ asked).1)
      ∧ (∀ (σ : Type) (observe : σ → TraceEvent → σ) (state : σ),
          ((SessionCall.watchAll observe policy (earlier ++ later)).run state).1
            = (earlier ++ later).map (fun asked => (call ⟨policy, none⟩ asked).1))
      ∧ ∃ before after : TracePrinter,
          (callAll ⟨policy, some printer⟩ earlier).2 = ⟨policy, some before⟩
          ∧ (callAll ⟨policy, some printer⟩ (earlier ++ later)).2 = ⟨policy, some after⟩
          ∧ ((SessionCall.watchAll TracePrinter.handle policy (earlier ++ later)).run printer).2
            = after
          ∧ printer.lines.toList <+: before.lines.toList
          ∧ before.lines.toList <+: after.lines.toList := by
  have shown : printer.handleAll (SessionCall.events policy (earlier ++ later))
      = (printer.handleAll (SessionCall.events policy earlier)).handleAll
          (SessionCall.events policy later) := by
    rw [SessionCall.events, List.flatMap_append]
    exact List.foldl_append
  refine ⟨?_, ?_, printer.handleAll (SessionCall.events policy earlier),
    printer.handleAll (SessionCall.events policy (earlier ++ later)), ?_, ?_, ?_,
    printer.lines_prefix_handleAll _, ?_⟩
  · rw [callAll_eq, SessionCall.answers_eq_fresh]
  · intro σ observe state
    rw [SessionCall.watchAll_run, SessionCall.answers_eq_fresh]
  · rw [callAll_eq, Option.map_some]
  · rw [callAll_eq, Option.map_some]
  · rw [SessionCall.watchAll_run]
    rfl
  · rw [shown]
    exact TracePrinter.lines_prefix_handleAll _ _

end Session

end VmToolchain
