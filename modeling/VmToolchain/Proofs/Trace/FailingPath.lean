import Mathlib.Data.List.Infix
import VmToolchain.Proofs.Trace.Nesting

/-! The trace of an evaluation that fails. It stops at one node of the tree, and every operator that
was entered on the way to this node reports the same error, the innermost first. Nothing is told of
nodes behind the one that failed.
-/

namespace VmToolchain

/-- A list has one first member that fails a test, by induction on the members before it. -/
theorem first_unique {α : Type} {passes : α → Prop} {before after before' after' : List α}
    {a a' : α}
    (same : before ++ a :: after = before' ++ a' :: after')
    (earlier : ∀ b ∈ before, passes b) (fails : ¬passes a)
    (earlier' : ∀ b ∈ before', passes b) (fails' : ¬passes a')
    : before = before' ∧ a = a' := by
  induction before generalizing before' with
  | nil =>
      cases before' with
      | nil =>
          obtain ⟨rfl, _⟩ := List.cons_eq_cons.mp same
          exact ⟨rfl, rfl⟩
      | cons b' rest' =>
          obtain ⟨rfl, _⟩ := List.cons_eq_cons.mp same
          exact (fails (earlier' a List.mem_cons_self)).elim
  | cons b rest ih =>
      cases before' with
      | nil =>
          obtain ⟨rfl, _⟩ := List.cons_eq_cons.mp same
          exact (fails' (earlier b List.mem_cons_self)).elim
      | cons b' rest' =>
          obtain ⟨rfl, rest_same⟩ := List.cons_eq_cons.mp same
          obtain ⟨rfl, rfl⟩ := ih rest_same (List.forall_mem_cons.mp earlier).2
            (List.forall_mem_cons.mp earlier').2
          exact ⟨rfl, rfl⟩

namespace Expr

-----------------------------------------------------------------------------------------
-- Where evaluation stops
-----------------------------------------------------------------------------------------

/-- The position of the node at which evaluation stops: one whose operator has no rules, or one
whose operator fails on the values of its operands. Otherwise it lies in the first operand that
fails.
-/
inductive StopsAt (policy : Policy) : Expr → List Nat → Prop
  | closed {e : Expr} {op : Operator} (root : e.operator? = some op) (rules : op.hasRules = false)
    : StopsAt policy e []
  | refused {op : Operator} {operands : List Expr} {values : List TypedValue} {error : FoldError}
    (rules : op.hasRules = true) (evaluated : (evaluateAll policy operands).result = .ok values)
    (failed : op.conclude policy values = .error error)
    : StopsAt policy (.apply op operands) []
  | operand {op : Operator} {before after : List Expr} {e : Expr} {position : List Nat}
    (rules : op.hasRules = true)
    (earlier : ∀ e ∈ before, ∃ value, (evaluate policy e).result = .ok value)
    (stops : StopsAt policy e position)
    : StopsAt policy (.apply op (before ++ e :: after)) (before.length :: position)

/-- The operators with rules on the way from the root to a position, both ends included. -/
def rulesAlong (e : Expr) (position : List Nat) : List Operator :=
  ((position.inits.filterMap (e.at? children)).filterMap operator?).filter Operator.hasRules

theorem rulesAlong_root (e : Expr)
    : e.rulesAlong [] = e.operator?.toList.filter Operator.hasRules := by
  cases root : e.operator? <;> simp [rulesAlong, at?, root]

theorem rulesAlong_operand {op : Operator} (rules : op.hasRules = true) (before after : List Expr)
    (e : Expr) (position : List Nat)
    : (apply op (before ++ e :: after)).rulesAlong (before.length :: position)
      = op :: e.rulesAlong position := by
  have below (path : List Nat)
      : (apply op (before ++ e :: after)).at? children (before.length :: path)
        = e.at? children path := by
    simp [at?, children]
  have root : (apply op (before ++ e :: after)).at? children []
      = some (.apply op (before ++ e :: after)) := rfl
  simp [rulesAlong, List.filterMap_map, below, root, operator?, rules]

variable {policy : Policy}

/-- Among expressions of which one fails, there is a first that does. -/
theorem exists_first_failing {es : List Expr} {error : FoldError}
    (h : (evaluateAll policy es).result = .error error)
    : ∃ before e after,
        es = before ++ e :: after
        ∧ (∀ e ∈ before, ∃ value, (evaluate policy e).result = .ok value)
        ∧ (evaluate policy e).result = .error error := by
  induction es with
  | nil => contradiction
  | cons e rest ih =>
      rw [evaluateAll_cons_result] at h
      rcases bind_eq_error.mp h with here | ⟨value, fine, h⟩
      · exact ⟨[], e, rest, rfl, nofun, here⟩
      · obtain ⟨before, failing, after, rfl, earlier, failed⟩ := ih (map_eq_error.mp h)
        exact ⟨e :: before, failing, after, rfl,
          List.forall_mem_cons.mpr ⟨⟨value, fine⟩, earlier⟩, failed⟩

/-- Behind the first expression that fails nothing is evaluated any more. -/
theorem evaluateAll_of_first_failing {before : List Expr} {e : Expr} {error : FoldError}
    (earlier : ∀ e ∈ before, ∃ value, (evaluate policy e).result = .ok value)
    (failed : (evaluate policy e).result = .error error) (after : List Expr)
    : (evaluateAll policy (before ++ e :: after)).result = .error error
      ∧ (evaluateAll policy (before ++ e :: after)).events
        = (evaluateAll policy before).events ++ (evaluate policy e).events := by
  induction before with
  | nil =>
      refine ⟨?_, events_evaluateAll_of_error policy failed after⟩
      rw [List.nil_append, evaluateAll_cons_result, failed]
      rfl
  | cons first rest ih =>
      obtain ⟨⟨value, fine⟩, earlier⟩ := List.forall_mem_cons.mp earlier
      obtain ⟨result, events⟩ := ih earlier
      rw [List.cons_append, evaluateAll_cons_result, events_evaluateAll_of_ok policy fine,
        events_evaluateAll_of_ok policy fine, fine, result, events, List.append_assoc]
      exact ⟨rfl, rfl⟩

/-- Evaluation that fails stops somewhere, by induction on the tree. -/
theorem exists_stopsAt {e : Expr} {error : FoldError}
    (failed : (evaluate policy e).result = .error error)
    : ∃ position, e.StopsAt policy position := by
  induction e using treeInduction generalizing error with
  | literal value => contradiction
  | var name type => cases type <;> contradiction
  | call callee args _ _ => exact ⟨[], .closed rfl rfl⟩
  | lambda params body _ => exact ⟨[], .closed rfl rfl⟩
  | apply op operands ih =>
      rw [evaluate_apply_result] at failed
      split at failed
      · next rules =>
          rcases bind_eq_error.mp failed with inside | ⟨values, evaluated, refused⟩
          · obtain ⟨before, e, after, rfl, earlier, failed⟩ := exists_first_failing inside
            obtain ⟨position, stops⟩ := ih e (by simp) failed
            exact ⟨_, .operand rules earlier stops⟩
          · exact ⟨[], .refused rules evaluated (map_eq_error.mp refused)⟩
      · next rules => exact ⟨[], .closed rfl (Bool.eq_false_iff.mpr rules)⟩

namespace StopsAt

/-- Where evaluation stops, it fails, and with the error of the node there. -/
theorem failed {e : Expr} {position : List Nat} (stops : e.StopsAt policy position)
    : ∃ node error,
        e.at? children position = some node
        ∧ (evaluate policy node).result = .error error
        ∧ (evaluate policy e).result = .error error := by
  induction stops with
  | @closed e op root rules =>
      cases e with
      | literal _ | var _ _ => contradiction
      | apply op operands =>
          cases root
          have result := evaluate_apply_result policy op operands
          rw [if_neg (Bool.eq_false_iff.mp rules)] at result
          exact ⟨_, _, rfl, result, result⟩
      | call callee args =>
          have result := evaluate_call_result policy callee args
          exact ⟨_, _, rfl, result, result⟩
      | lambda params body => exact ⟨_, _, rfl, rfl, rfl⟩
  | @refused op operands values error rules evaluated failed =>
      have result : (evaluate policy (.apply op operands)).result = .error error := by
        rw [evaluate_apply_result, if_pos rules, evaluated]
        exact map_eq_error.mpr failed
      exact ⟨_, _, rfl, result, result⟩
  | @operand op before after e position rules earlier _ ih =>
      obtain ⟨node, error, found, failed, inner⟩ := ih
      refine ⟨node, error, ?_, failed, ?_⟩
      · rw [at?, children, List.getElem?_append_right (Nat.le_refl _), Nat.sub_self]
        exact found
      · rw [evaluate_apply_result, if_pos rules,
          (evaluateAll_of_first_failing earlier inner after).1]
        rfl

theorem of_closed {e : Expr} {op : Operator} {position : List Nat}
    (stops : e.StopsAt policy position) (root : e.operator? = some op)
    (rules : op.hasRules = false)
    : position = [] := by
  cases stops with
  | closed _ _ => rfl
  | refused _ _ _ => rfl
  | operand entered _ _ =>
      cases root
      rw [rules] at entered
      contradiction

/-- An operator that is entered stops evaluation itself, or the first operand that fails does. -/
theorem of_entered {op : Operator} {operands : List Expr} {position : List Nat}
    (stops : (apply op operands).StopsAt policy position) (rules : op.hasRules = true)
    : (position = [] ∧ ∃ values, (evaluateAll policy operands).result = .ok values)
      ∨ ∃ before e after inner,
          operands = before ++ e :: after
          ∧ position = before.length :: inner
          ∧ (∀ e ∈ before, ∃ value, (evaluate policy e).result = .ok value)
          ∧ e.StopsAt policy inner := by
  cases stops with
  | closed root closed =>
      cases root
      rw [rules] at closed
      contradiction
  | refused _ evaluated _ => exact Or.inl ⟨rfl, _, evaluated⟩
  | operand _ earlier stops => exact Or.inr ⟨_, _, _, _, rfl, rfl, earlier, stops⟩

theorem not_ok {e : Expr} {position : List Nat} (stops : e.StopsAt policy position)
    : ¬∃ value, (evaluate policy e).result = .ok value := by
  rintro ⟨value, fine⟩
  obtain ⟨_, error, _, _, failed⟩ := stops.failed
  cases fine.symm.trans failed

theorem root_of_operands {op : Operator} {operands : List Expr} {position : List Nat}
    (stops : (apply op operands).StopsAt policy position) (rules : op.hasRules = true)
    (fine : ∃ values, (evaluateAll policy operands).result = .ok values)
    : position = [] := by
  rcases stops.of_entered rules with ⟨root, _⟩ | ⟨before, e, after, inner, rfl, rfl, earlier, below⟩
  · exact root
  · obtain ⟨values, fine⟩ := fine
    obtain ⟨_, error, _, _, failed⟩ := below.failed
    cases fine.symm.trans (evaluateAll_of_first_failing earlier failed after).1

/-- Evaluation stops at one position only, by induction on the tree. -/
theorem unique {e : Expr} {position other : List Nat} (stops : e.StopsAt policy position)
    (again : e.StopsAt policy other)
    : other = position := by
  induction e using treeInduction generalizing position other with
  | literal value => cases stops with | closed root _ => contradiction
  | var name type => cases stops with | closed root _ => contradiction
  | call callee args _ _ => rw [stops.of_closed rfl rfl, again.of_closed rfl rfl]
  | lambda params body _ => rw [stops.of_closed rfl rfl, again.of_closed rfl rfl]
  | apply op operands ih =>
      cases rules : op.hasRules with
      | false => rw [stops.of_closed rfl rules, again.of_closed rfl rules]
      | true =>
          rcases stops.of_entered rules with
            ⟨rfl, fine⟩ | ⟨before, e, after, inner, rfl, rfl, earlier, below⟩
          · exact again.root_of_operands rules fine
          · rcases again.of_entered rules with
              ⟨rfl, fine⟩ | ⟨before', e', after', inner', same, rfl, earlier', below'⟩
            · exact (stops.root_of_operands rules fine).symm
            · obtain ⟨rfl, rfl⟩ := first_unique same earlier below.not_ok earlier' below'.not_ok
              rw [ih e (by simp) below below']

end StopsAt

-----------------------------------------------------------------------------------------
-- What is told on the way
-----------------------------------------------------------------------------------------

theorem no_failure_of_operands {es : List Expr}
    (h : ∀ e ∈ es, ∀ event ∈ (evaluate policy e).events, event.isFailure = false)
    : ∀ event ∈ (evaluateAll policy es).events, event.isFailure = false := by
  induction es with
  | nil => exact List.forall_mem_nil _
  | cons e rest ih =>
      obtain ⟨head, tail⟩ := List.forall_mem_cons.mp h
      intro event member
      cases result : (evaluate policy e).result with
      | error error =>
          rw [events_evaluateAll_of_error policy result] at member
          exact head event member
      | ok value =>
          rw [events_evaluateAll_of_ok policy result] at member
          rcases List.mem_append.mp member with first | later
          · exact head event first
          · exact ih tail event later

/-- An evaluation that comes to a value reports no failure, by induction on the tree. -/
theorem no_failure_of_evaluate {e : Expr} {value : TypedValue}
    (h : (evaluate policy e).result = .ok value)
    : ∀ event ∈ (evaluate policy e).events, event.isFailure = false := by
  induction e using treeInduction generalizing value with
  | literal constant => exact List.forall_mem_singleton.mpr rfl
  | var name type => cases type <;> exact List.forall_mem_singleton.mpr rfl
  | call callee args _ _ =>
      rw [evaluate_call_result] at h
      contradiction
  | lambda params body _ => contradiction
  | apply op operands ih =>
      obtain ⟨rules, values, verdict, evaluated, concluded⟩ := evaluate_apply_eq_ok.mp h
      have inner := no_failure_of_operands (fun e member => by
        obtain ⟨_, _, found⟩ := exists_value_of_mem evaluated member
        exact ih e member found)
      intro event member
      rw [events_apply policy rules, ending, evaluated] at member
      dsimp only at member
      rw [concluded, List.cons_append, List.mem_cons, List.mem_append, List.mem_singleton] at member
      rcases member with rfl | inside | rfl
      · rfl
      · exact inner event inside
      · rfl

theorem no_failure_of_values {es : List Expr}
    (h : ∀ e ∈ es, ∃ value, (evaluate policy e).result = .ok value)
    : ∀ event ∈ (evaluateAll policy es).events, event.isFailure = false := by
  refine no_failure_of_operands (fun e member => ?_)
  obtain ⟨_, fine⟩ := h e member
  exact no_failure_of_evaluate fine

/-- Of a node without rules nothing is told. -/
theorem events_of_closed {e : Expr} {op : Operator} (root : e.operator? = some op)
    (rules : op.hasRules = false)
    : (evaluate policy e).events = [] := by
  cases e with
  | literal _ | var _ _ => contradiction
  | apply op operands =>
      cases root
      rw [evaluate, Policy.apply, if_neg (Bool.eq_false_iff.mp rules)]
      rfl
  | call callee args =>
      rw [evaluate]
      rfl
  | lambda params body =>
      rw [evaluate]
      rfl

/-- The events of an evaluation that fails: behind all else, each operator with rules on the way to
the node where it stops reports the error, from there up to the root. Before that no failure is
reported, and just these operators were entered and not left.
-/
theorem StopsAt.events {e : Expr} {position : List Nat} {error : FoldError}
    (stops : e.StopsAt policy position) (failed : (evaluate policy e).result = .error error)
    : ∃ earlier,
        (evaluate policy e).events
          = earlier ++ ((e.rulesAlong position).map (TraceEvent.failure · error)).reverse
        ∧ (∀ event ∈ earlier, event.isFailure = false)
        ∧ endDepth? 0 earlier = some (e.rulesAlong position).length := by
  induction stops with
  | @closed e op root rules =>
      have none : e.rulesAlong [] = [] := by simp [rulesAlong_root, root, rules]
      rw [none]
      exact ⟨[], events_of_closed root rules, List.forall_mem_nil _, rfl⟩
  | @refused op operands values _ rules evaluated _ =>
      have one : (apply op operands).rulesAlong [] = [op] := by
        simp [rulesAlong_root, operator?, rules]
      have fine : ∀ e ∈ operands, ∃ value, (evaluate policy e).result = .ok value := by
        intro e member
        obtain ⟨value, _, found⟩ := exists_value_of_mem evaluated member
        exact ⟨value, found⟩
      rw [one, events_apply policy rules, ending_of_error rules failed]
      refine ⟨.enter op :: (evaluateAll policy operands).events, rfl,
        List.forall_mem_cons.mpr ⟨rfl, no_failure_of_values fine⟩, ?_⟩
      exact endDepth?_cons.mpr ⟨1, rfl, endDepth?_add (operands_balanced policy operands) 1⟩
  | @operand op before after e position rules fine stops ih =>
      -- The error comes up from the operand, so all that this operator adds is its own report.
      obtain ⟨_, inner, _, _, below⟩ := stops.failed
      obtain ⟨result, events⟩ := evaluateAll_of_first_failing fine below after
      have same : inner = error := by
        rw [evaluate_apply_result, if_pos rules, result] at failed
        cases failed
        rfl
      subst same
      obtain ⟨earlier, told, calm, depth⟩ := ih below
      rw [rulesAlong_operand rules, events_apply policy rules, ending_of_error rules failed, events,
        told]
      refine ⟨.enter op :: ((evaluateAll policy before).events ++ earlier), by simp, ?_, ?_⟩
      · refine List.forall_mem_cons.mpr ⟨rfl, fun event member => ?_⟩
        exact (List.mem_append.mp member).elim (no_failure_of_values fine event) (calm event)
      · refine endDepth?_cons.mpr ⟨1, rfl, endDepth?_append.mpr ⟨1, ?_, ?_⟩⟩
        · exact endDepth?_add (operands_balanced policy before) 1
        · rw [List.length_cons, Nat.add_comm]
          exact endDepth?_add depth 1

end Expr

-----------------------------------------------------------------------------------------
-- The lines of a failure
-----------------------------------------------------------------------------------------

theorem foldl_depthAfter_failures (ops : List Operator) (error : FoldError) (depth : Nat)
    : (ops.map (TraceEvent.failure · error)).reverse.foldl TraceEvent.depthAfter
          (depth + ops.length)
      = depth := by
  induction ops generalizing depth with
  | nil => rfl
  | cons op rest ih =>
      rw [List.map_cons, List.reverse_cons, List.foldl_append, List.length_cons,
        Nat.add_comm rest.length, ← Nat.add_assoc, ih]
      rfl

/-- Failures that are reported one after the other come out of so many levels, the first of them
from the innermost.
-/
theorem TracePrinter.linesOf_failures (verbosity : Verbosity) (palette : Palette)
    (ops : List Operator) (error : FoldError) (depth : Nat)
    : linesOf verbosity palette (depth + ops.length)
        (ops.map (TraceEvent.failure · error)).reverse
      = (ops.mapIdx (fun level op => failureLine (depth + level) op error)).reverse := by
  induction ops generalizing depth with
  | nil => rfl
  | cons op rest ih =>
      have last : linesOf verbosity palette (depth + 1) [.failure op error]
          = [failureLine depth op error] := by
        rw [linesOf_eq_placed]
        simp [placed, TraceEvent.depthAfter, TraceEvent.isShown, TraceEvent.isDetail,
          failureLine_eq_lineAt palette]
      rw [List.map_cons, List.reverse_cons, List.length_cons, Nat.add_comm rest.length,
        ← Nat.add_assoc, linesOf_append, foldl_depthAfter_failures, ih, last, List.mapIdx_cons,
        List.reverse_cons]
      simp only [Nat.add_zero, Nat.add_assoc, Nat.add_comm 1]

namespace Session

/-- A failing evaluation reports exactly the way to its failure. It stops at one position of the
tree, at a node that fails with the same error. The trace ends with one line for each operator with
rules on the way there, the innermost first and each at its own depth, all with this error, and no
other line reports a failure. If the operator at the root has no rules, there is no line at all.
-/
theorem failure_reports_path (policy : Policy) (printer : TracePrinter) (e : Expr)
    (error : FoldError) (failed : (evaluate ⟨policy, some printer⟩ e).1 = .error error)
    : (∃ position,
        e.StopsAt policy position
        ∧ ∀ other, e.StopsAt policy other → other = position)
      ∧ (∀ position,
          e.StopsAt policy position
          → (∃ node,
              e.at? Expr.children position = some node
              ∧ (node.evaluate policy).result = .error error)
            ∧ ∃ after earlier,
                (evaluate ⟨policy, some printer⟩ e).2 = ⟨policy, some after⟩
                ∧ after.lines.toList
                  = printer.lines.toList
                    ++ earlier
                    ++ ((e.rulesAlong position).mapIdx
                        (fun level op => failureLine (printer.depth + level) op error)).reverse
                ∧ ∀ line ∈ earlier, ¬IsFailureLine line)
      ∧ (∀ level op, indentation (failureLine level op error) = 2 * level)
      ∧ ∀ op,
          e.operator? = some op
          → op.hasRules = false
          → (evaluate ⟨policy, some printer⟩ e).2 = ⟨policy, some printer⟩ := by
  refine ⟨?_, ?_, fun level op => indentation_failureLine level op error, ?_⟩
  · obtain ⟨position, stops⟩ := Expr.exists_stopsAt failed
    exact ⟨position, stops, fun other again => stops.unique again⟩
  · intro position stops
    obtain ⟨node, reason, found, fails, same⟩ := stops.failed
    cases same.symm.trans failed
    refine ⟨⟨node, found, fails⟩, ?_⟩
    obtain ⟨earlier, told, calm, depth⟩ := stops.events failed
    refine ⟨_, TracePrinter.linesOf printer.verbosity printer.palette printer.depth earlier, rfl,
      ?_, ?_⟩
    · have entered : earlier.foldl TraceEvent.depthAfter printer.depth
          = printer.depth + (e.rulesAlong position).length :=
        foldl_depthAfter_add depth printer.depth
      rw [TracePrinter.lines_handleAll, told, TracePrinter.linesOf_append, entered,
        TracePrinter.linesOf_failures, List.append_assoc]
    · intro line member
      obtain ⟨level, event, within, rfl⟩ := TracePrinter.exists_of_mem_linesOf member
      rw [isFailureLine_lineAt_iff, calm event within]
      exact Bool.false_ne_true
  · intro op root rules
    have silent : (e.evaluate policy).events = [] := Expr.events_of_closed root rules
    simp [evaluate, record, silent, TracePrinter.handleAll]

/-- The second operand of a difference has a lambda in it. The first one has been added up by then,
and the third is never looked at.
-/
theorem failure_reports_path_of_lambda
    : (evaluate ⟨.strict, some ⟨.default, .plain, 1, #["earlier"]⟩⟩
          (.apply .minus
            [.apply .plus [.int 1, .int 2],
              .apply .assignment [.lambda ["a"] (.var "a" none), .var "f" none],
              .apply .plus [.int 1, .str "b"]])).1
        = .error (.notImplemented .arrow .type)
      ∧ Expr.StopsAt .strict
          (.apply .minus
            [.apply .plus [.int 1, .int 2],
              .apply .assignment [.lambda ["a"] (.var "a" none), .var "f" none],
              .apply .plus [.int 1, .str "b"]])
          [1, 0]
      ∧ ∃ after earlier,
          (evaluate ⟨.strict, some ⟨.default, .plain, 1, #["earlier"]⟩⟩
              (.apply .minus
                [.apply .plus [.int 1, .int 2],
                  .apply .assignment [.lambda ["a"] (.var "a" none), .var "f" none],
                  .apply .plus [.int 1, .str "b"]])).2
            = ⟨.strict, some after⟩
          ∧ after.lines.toList
            = ["earlier"]
              ++ earlier
              ++ ["    ASSIGNMENT failed: type rule not implemented for ARROW",
                  "  MINUS failed: type rule not implemented for ARROW"]
          ∧ ∀ line ∈ earlier, ¬IsFailureLine line := by
  have stops : Expr.StopsAt .strict
      (.apply .minus
        [.apply .plus [.int 1, .int 2],
          .apply .assignment [.lambda ["a"] (.var "a" none), .var "f" none],
          .apply .plus [.int 1, .str "b"]])
      [1, 0] := by
    have inner : Expr.StopsAt .strict
        (.apply .assignment [.lambda ["a"] (.var "a" none), .var "f" none]) [0] :=
      @Expr.StopsAt.operand .strict .assignment [] _ _ _ rfl (List.forall_mem_nil _)
        (.closed rfl rfl)
    refine @Expr.StopsAt.operand .strict .minus [.apply .plus [.int 1, .int 2]] _ _ _ rfl ?_ inner
    exact List.forall_mem_singleton.mpr ⟨_, rfl⟩
  refine ⟨rfl, stops, ?_⟩
  exact ((failure_reports_path .strict ⟨.default, .plain, 1, #["earlier"]⟩ _ _ rfl).2.1 _ stops).2

end Session

end VmToolchain
