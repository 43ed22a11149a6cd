import VmToolchain.Proofs.Folding.Residue
import VmToolchain.Proofs.Trace.Balance

/-! How the lines of an evaluation are nested. Each of them tells of one node of the tree, and it
stands as deep as this node lies below the root.
-/

namespace VmToolchain

-----------------------------------------------------------------------------------------
-- What is told of the nodes of a tree
-----------------------------------------------------------------------------------------

/-- An event, and the position of the node that it tells of. -/
structure Report where
  position : List Nat
  event : TraceEvent

namespace Report

/-- The same, seen from the node above, of which this is the part with this number. -/
def inPart (part : Nat) (report : Report) : Report :=
  ⟨part :: report.position, report.event⟩

/-- The event at the level of its node, counted from the depth of the root. -/
def placedFrom (depth : Nat) (report : Report) : Nat × TraceEvent :=
  (depth + report.position.length, report.event)

theorem placedFrom_inPart (depth part : Nat) (report : Report)
    : (report.inPart part).placedFrom depth = report.placedFrom (depth + 1) := by
  rw [placedFrom, placedFrom, inPart, List.length_cons, Nat.add_assoc, Nat.add_comm 1]

end Report

/-- The event tells of this node: that it is entered, what it gives as a leaf, or how its
application ends.
-/
inductive TraceEvent.TellsOf (policy : Policy) : TraceEvent → Expr → Prop
  | enter {op : Operator} (operands : List Expr) (rules : op.hasRules = true)
    : TellsOf policy (.enter op) (.apply op operands)
  | leaf {node : Expr} {value : TypedValue} (leaf : node.operator? = none)
    (evaluated : (Expr.evaluate policy node).result = .ok value)
    : TellsOf policy (.leaf value) node
  | apply {op : Operator} {operands : List Expr} {values : List TypedValue} {verdict : Category}
    {result : TypedValue} (rules : op.hasRules = true)
    (evaluated : (Expr.evaluateAll policy operands).result = .ok values)
    (concluded : op.conclude policy values = .ok (verdict, result))
    : TellsOf policy (.apply op values verdict result) (.apply op operands)
  | failure {op : Operator} {operands : List Expr} {error : FoldError} (rules : op.hasRules = true)
    (failed : (Expr.evaluate policy (.apply op operands)).result = .error error)
    : TellsOf policy (.failure op error) (.apply op operands)

namespace Expr

/-- How the application of an operator with rules ends. -/
def ending (policy : Policy) (op : Operator) (operands : List Expr) : TraceEvent :=
  match (evaluateAll policy operands).result with
  | .error error => .failure op error
  | .ok values =>
      match op.conclude policy values with
      | .error error => .failure op error
      | .ok (verdict, result) => .apply op values verdict result

mutual

/-- What evaluation tells, node by node: of an application before and after its operands, of one
without rules nothing.
-/
def reports (policy : Policy) : Expr → List Report
  | .literal value => [⟨[], .leaf (.known value)⟩]
  | .var _ none => [⟨[], .leaf (.unknown .unknown)⟩]
  | .var _ (some type) => [⟨[], .leaf (.unknown type.category)⟩]
  | .apply op operands =>
      if op.hasRules then
        ⟨[], .enter op⟩ :: reportsOfAll policy 0 operands ++ [⟨[], ending policy op operands⟩]
      else []
  | .call _ _ | .lambda _ _ => []

/-- What is told of parts from this number on, up to the first that fails. -/
def reportsOfAll (policy : Policy) (part : Nat) : List Expr → List Report
  | [] => []
  | e :: rest =>
      (reports policy e).map (Report.inPart part)
        ++ match (evaluate policy e).result with
          | .error _ => []
          | .ok _ => reportsOfAll policy (part + 1) rest

end

variable (policy : Policy)

/-- An application with rules is entered, then come its operands, then its ending. -/
theorem events_apply {op : Operator} (rules : op.hasRules = true) (operands : List Expr)
    : (evaluate policy (.apply op operands)).events
      = .enter op :: (evaluateAll policy operands).events ++ [ending policy op operands] := by
  rw [evaluate]
  rcases policy.apply_cases rules (fun _ => evaluateAll policy operands) with
    ⟨error, failed, applied⟩ | ⟨values, error, evaluated, failed, applied⟩
    | ⟨values, verdict, result, evaluated, concluded, applied⟩
  · rw [applied, ending, failed]
  · rw [applied, ending, evaluated]
    dsimp only
    rw [failed]
  · rw [applied, ending, evaluated]
    dsimp only
    rw [concluded]

theorem tellsOf_ending {op : Operator} (rules : op.hasRules = true) (operands : List Expr)
    : (ending policy op operands).TellsOf policy (.apply op operands) := by
  have result := evaluate_apply_result policy op operands
  rw [if_pos rules] at result
  unfold ending
  cases evaluated : (evaluateAll policy operands).result with
  | error error =>
      rw [evaluated] at result
      exact .failure rules result
  | ok values =>
      rw [evaluated] at result
      dsimp only
      cases concluded : op.conclude policy values with
      | error error =>
          refine .failure rules (result.trans ?_)
          exact map_eq_error.mpr concluded
      | ok pair => exact .apply rules evaluated concluded

variable {policy} in
theorem ending_of_ok {op : Operator} {operands : List Expr} {value : TypedValue}
    (h : (evaluate policy (.apply op operands)).result = .ok value)
    : ∃ values verdict, ending policy op operands = .apply op values verdict value := by
  obtain ⟨_, values, verdict, evaluated, concluded⟩ := evaluate_apply_eq_ok.mp h
  refine ⟨values, verdict, ?_⟩
  rw [ending, evaluated]
  dsimp only
  rw [concluded]

variable {policy} in
theorem ending_of_error {op : Operator} {operands : List Expr} {error : FoldError}
    (rules : op.hasRules = true)
    (failed : (evaluate policy (.apply op operands)).result = .error error)
    : ending policy op operands = .failure op error := by
  rw [evaluate_apply_result, if_pos rules] at failed
  unfold ending
  rcases bind_eq_error.mp failed with inside | ⟨values, evaluated, refused⟩
  · rw [inside]
  · rw [evaluated]
    dsimp only
    rw [map_eq_error.mp refused]

theorem leaves_ending (op : Operator) (operands : List Expr)
    : (ending policy op operands).leaves = true := by
  unfold ending
  split
  · rfl
  · split <;> rfl

theorem events_evaluateAll_of_ok {e : Expr} {value : TypedValue}
    (h : (evaluate policy e).result = .ok value) (rest : List Expr)
    : (evaluateAll policy (e :: rest)).events
      = (evaluate policy e).events ++ (evaluateAll policy rest).events := by
  rw [evaluateAll, Traced.events_bind_of_ok h]
  rfl

theorem events_evaluateAll_of_error {e : Expr} {error : FoldError}
    (h : (evaluate policy e).result = .error error) (rest : List Expr)
    : (evaluateAll policy (e :: rest)).events = (evaluate policy e).events := by
  rw [evaluateAll, Traced.events_bind_of_error h]

theorem placed_evaluateAll {es : List Expr} (depth part : Nat)
    (h : ∀ e ∈ es, ∀ depth,
      placed depth (evaluate policy e).events = (e.reports policy).map (Report.placedFrom depth))
    : placed (depth + 1) (evaluateAll policy es).events
      = (reportsOfAll policy part es).map (Report.placedFrom depth) := by
  induction es generalizing part with
  | nil => rfl
  | cons e rest ih =>
      obtain ⟨head, tail⟩ := List.forall_mem_cons.mp h
      have shifted : ((e.reports policy).map (Report.inPart part)).map (Report.placedFrom depth)
          = placed (depth + 1) (evaluate policy e).events := by
        rw [head, List.map_map]
        exact List.map_congr_left (fun report _ => report.placedFrom_inPart depth part)
      rw [reportsOfAll, List.map_append, shifted]
      cases result : (evaluate policy e).result with
      | error error => rw [events_evaluateAll_of_error policy result, List.map_nil, List.append_nil]
      | ok value =>
          rw [events_evaluateAll_of_ok policy result, placed_append,
            (evaluate_balanced policy e).returns, ih (part + 1) tail]

/-- The line of an event stands at the level of the node that it tells of. The induction is on the
tree: an operator's own lines stand at its depth, and one is added for its operands.
-/
theorem placed_evaluate (e : Expr) (depth : Nat)
    : placed depth (evaluate policy e).events
      = (e.reports policy).map (Report.placedFrom depth) := by
  induction e using treeInduction generalizing depth with
  | literal value =>
      rw [evaluate, reports]
      simp [placed, Traced.leaf, TraceEvent.depthAfter, Report.placedFrom]
  | var name type =>
      cases type <;> rw [evaluate, reports] <;>
        simp [placed, Traced.leaf, TraceEvent.depthAfter, Report.placedFrom]
  | call callee args _ _ =>
      rw [evaluate, reports]
      rfl
  | lambda params body _ =>
      rw [evaluate, reports]
      rfl
  | apply op operands ih =>
      rw [reports]
      split
      · next rules =>
          rw [events_apply policy rules,
            placed_application (operands_balanced policy operands)
              (leaves_ending policy op operands),
            placed_evaluateAll policy depth 0 ih]
          simp [Report.placedFrom]
      · next rules =>
          rw [evaluate, Policy.apply, if_neg rules]
          rfl

theorem mem_reportsOfAll {part : Nat} {es : List Expr} {report : Report}
    (member : report ∈ reportsOfAll policy part es)
    : ∃ (i : Nat) (e : Expr) (inner : Report),
        es[i]? = some e ∧ inner ∈ e.reports policy ∧ report = inner.inPart (part + i) := by
  induction es generalizing part with
  | nil => contradiction
  | cons e rest ih =>
      rw [reportsOfAll] at member
      rcases List.mem_append.mp member with first | later
      · obtain ⟨inner, within, rfl⟩ := List.mem_map.mp first
        exact ⟨0, e, inner, rfl, within, rfl⟩
      · split at later
        · contradiction
        · obtain ⟨i, e, inner, found, within, rfl⟩ := ih later
          exact ⟨i + 1, e, inner, found, within, by rw [Nat.add_assoc, Nat.add_comm 1]⟩

/-- At the position of a report stands a node of which its event tells, by induction on the tree. -/
theorem tellsOf_of_mem_reports {e : Expr} {report : Report} (member : report ∈ e.reports policy)
    : ∃ node, e.at? children report.position = some node ∧ report.event.TellsOf policy node := by
  induction e using treeInduction generalizing report with
  | literal value =>
      cases List.mem_singleton.mp member
      exact ⟨_, rfl, .leaf rfl rfl⟩
  | var name type =>
      cases type <;> cases List.mem_singleton.mp member <;> exact ⟨_, rfl, .leaf rfl rfl⟩
  | call _ _ _ _ | lambda _ _ _ =>
      rw [reports] at member
      contradiction
  | apply op operands ih =>
      rw [reports] at member
      split at member
      · next rules =>
          rw [List.cons_append, List.mem_cons, List.mem_append, List.mem_singleton] at member
          rcases member with rfl | inside | rfl
          · exact ⟨_, rfl, .enter operands rules⟩
          · obtain ⟨i, part, inner, found, within, rfl⟩ := mem_reportsOfAll policy inside
            obtain ⟨node, below, tells⟩ := ih part (List.mem_of_getElem? found) within
            refine ⟨node, ?_, tells⟩
            rw [Report.inPart, Nat.zero_add, at?, children, found, Option.bind_some, below]
          · exact ⟨_, rfl, tellsOf_ending policy rules operands⟩
      · contradiction

/-- The lines of an evaluation are those of its reports, each at the level of its node. -/
theorem linesOf_evaluate (verbosity : Verbosity) (palette : Palette) (depth : Nat) (e : Expr)
    : TracePrinter.linesOf verbosity palette depth (evaluate policy e).events
      = ((e.reports policy).filter (·.event.isShown verbosity)).map
          (fun report => report.event.lineAt palette (depth + report.position.length)) := by
  rw [TracePrinter.linesOf_eq_placed, placed_evaluate, List.filter_map, List.map_map]
  rfl

end Expr

-----------------------------------------------------------------------------------------
-- The trace of a session
-----------------------------------------------------------------------------------------

namespace Session

/-- What a call does to the printer of a session. -/
theorem call_printer (policy : Policy) (printer : TracePrinter) (asked : SessionCall)
    : (call ⟨policy, some printer⟩ asked).2
      = ⟨policy, some (printer.handleAll (asked.recorded policy).2)⟩ := by
  rw [call_eq]
  rfl

/-- Traces are nested as the trees are. Whatever a session is asked for, and whether it fails or
not, the printer ends at the depth at which it started, each operator that was left had been
entered, and no line is indented by less than the depth at the start. On evaluation, the lines tell
of nodes of the tree, and the line of a node stands as many levels further in as the node lies below
the root. So the trace of an operator with rules ends at the depth of the start, and one with all
details also begins there.
-/
theorem trace_nests_as_tree (policy : Policy) (printer : TracePrinter) (e : Expr)
    : (∀ asked : SessionCall, ∃ after added,
        (call ⟨policy, some printer⟩ asked).2 = ⟨policy, some after⟩
        ∧ after.depth = printer.depth
        ∧ (∀ earlier event later,
            (asked.recorded policy).2 = earlier ++ event :: later
            → event.leaves = true
            → ((printer.handleAll earlier).handle event).depth + 1
              = (printer.handleAll earlier).depth)
        ∧ after.lines.toList = printer.lines.toList ++ added
        ∧ ∀ line ∈ added, 2 * printer.depth ≤ indentation line)
      ∧ ∃ after added,
          (evaluate ⟨policy, some printer⟩ e).2 = ⟨policy, some after⟩
          ∧ after.lines.toList = printer.lines.toList ++ added
          ∧ (e.reports policy).map Report.event = (e.evaluate policy).events
          ∧ added
            = ((e.reports policy).filter (·.event.isShown printer.verbosity)).map
                (fun report =>
                  report.event.lineAt printer.palette (printer.depth + report.position.length))
          ∧ (∀ report ∈ e.reports policy,
              (∃ node,
                e.at? Expr.children report.position = some node
                ∧ report.event.TellsOf policy node)
              ∧ indentation
                  (report.event.lineAt printer.palette (printer.depth + report.position.length))
                = 2 * (printer.depth + report.position.length))
          ∧ ∀ op operands,
              e = .apply op operands
              → op.hasRules = true
              → added.getLast?.map indentation = some (2 * printer.depth)
                ∧ (printer.verbosity = .verbose
                    → added.head?.map indentation = some (2 * printer.depth)) := by
  constructor
  · intro asked
    have balanced := asked.balanced policy
    refine ⟨_, _, call_printer policy printer asked, ?_, ?_, printer.lines_handleAll _, ?_⟩
    · rw [TracePrinter.depth_handleAll, balanced.returns]
    · intro earlier event later recorded left
      rw [recorded] at balanced
      rw [TracePrinter.handle_eq, TracePrinter.depth_handleAll]
      exact balanced.depthAfter_succ left printer.depth
    · intro line member
      rw [TracePrinter.linesOf_eq_placed] at member
      obtain ⟨event, shown, rfl⟩ := List.mem_map.mp member
      have outside : printer.depth ≤ event.1 :=
        le_of_mem_placed balanced (List.mem_of_mem_filter shown)
      rw [indentation_lineAt]
      exact Nat.mul_le_mul_left 2 outside
  · refine ⟨_, _, rfl, printer.lines_handleAll _, ?_, Expr.linesOf_evaluate policy _ _ _ e, ?_, ?_⟩
    · have events := congrArg (List.map Prod.snd) (e.placed_evaluate policy 0)
      rw [map_snd_placed, List.map_map] at events
      exact events.symm
    · intro report member
      exact ⟨Expr.tellsOf_of_mem_reports policy member, indentation_lineAt _ _ _⟩
    · rintro op operands rfl rules
      have shown := TraceEvent.isShown_of_leaves printer.verbosity
        (Expr.leaves_ending policy op operands)
      rw [Expr.linesOf_evaluate, Expr.reports, if_pos rules]
      constructor
      · simp [shown, indentation_lineAt]
      · intro verbose
        simp [verbose, TraceEvent.isShown, indentation_lineAt]

end Session

end VmToolchain
