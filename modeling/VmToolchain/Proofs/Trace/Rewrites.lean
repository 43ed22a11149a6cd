import VmToolchain.Proofs.Folding.Collapse
import VmToolchain.Proofs.Trace.Nesting

/-! The trace of the folding pass. Every application that gives way to a literal leaves one line,
and so does the one that fails, if any. Nothing else is shown, and all the lines stand at one depth.
-/

namespace VmToolchain

namespace Expr

-----------------------------------------------------------------------------------------
-- Counting applications
-----------------------------------------------------------------------------------------

def isApplication : Expr → Bool
  | .apply _ _ => true
  | .literal _ | .var _ _ | .call _ _ | .lambda _ _ => false

/-- The number of applications among all nodes, the bodies of lambdas included. -/
def applications (e : Expr) : Nat :=
  e.preorder.countP isApplication

def applicationsOfAll (es : List Expr) : Nat :=
  (preorderOfAll es).countP isApplication

theorem applicationsOfAll_cons (e : Expr) (rest : List Expr)
    : applicationsOfAll (e :: rest) = e.applications + applicationsOfAll rest := by
  rw [applicationsOfAll, preorderOfAll, List.countP_append]
  rfl

theorem applications_apply (op : Operator) (operands : List Expr)
    : (apply op operands).applications = applicationsOfAll operands + 1 := by
  rw [applications, preorder, List.countP_cons_of_pos rfl]
  rfl

theorem applications_call (callee : Expr) (args : List Expr)
    : (call callee args).applications = callee.applications + applicationsOfAll args := by
  rw [applications, preorder, List.countP_cons_of_neg Bool.false_ne_true, List.countP_append]
  rfl

theorem applicationsOfAll_map_literal (constants : List Constant)
    : applicationsOfAll (constants.map literal) = 0 := by
  induction constants with
  | nil => rfl
  | cons constant constants ih =>
      rw [List.map_cons, applicationsOfAll_cons, ih]
      rfl

end Expr

-----------------------------------------------------------------------------------------
-- Lines for applications that are gone
-----------------------------------------------------------------------------------------

/-- The computation starts from a tree, or several, with so many applications. If it comes to a
result, it has a line for each application that is gone by then. If it fails, its last line says so.
-/
structure TracesRewrites {α : Type} (palette : Palette) (depth : Nat) (traced : Traced α)
    (before : Nat) (after : α → Nat) : Prop where
  balanced : Balanced traced.events
  ok
    : ∀ value,
        traced.result = .ok value
        → (TracePrinter.linesOf .default palette depth traced.events).length + after value = before
          ∧ ∀ line ∈ TracePrinter.linesOf .default palette depth traced.events,
              IsApplicationLine palette depth line
  error
    : ∀ error,
        traced.result = .error error
        → ∃ earlier op,
            TracePrinter.linesOf .default palette depth traced.events
              = earlier ++ [failureLine depth op error]
            ∧ ∀ line ∈ earlier, IsApplicationLine palette depth line

namespace TracesRewrites

variable {α β : Type} {palette : Palette} {depth before : Nat} {after : α → Nat} {last : β → Nat}
  {traced : Traced α} {next : α → Traced β}

protected theorem pure (value : α)
    : TracesRewrites palette depth (pure value) (after value) after where
  balanced := .nil
  ok _ same := by
    cases same
    exact ⟨Nat.zero_add _, List.forall_mem_nil _⟩
  error _ same := by contradiction

/-- What is left alone counts on both sides. -/
theorem frame (h : TracesRewrites palette depth traced before after) (others : Nat)
    : TracesRewrites palette depth traced (others + before)
        (fun value => others + after value) where
  balanced := h.balanced
  ok value same := by
    obtain ⟨count, lines⟩ := h.ok value same
    exact ⟨by omega, lines⟩
  error := h.error

protected theorem map {change : α → β}
    (h : TracesRewrites palette depth traced before (fun value => last (change value)))
    : TracesRewrites palette depth (change <$> traced) before last where
  balanced := h.balanced
  ok value same := by
    obtain ⟨value, found, rfl⟩ := map_eq_ok.mp same
    exact h.ok value found
  error error same := h.error error (map_eq_error.mp same)

/-- Two steps have the lines of both; behind a failure there is no second step. -/
protected theorem bind {others : Nat} (first : TracesRewrites palette depth traced before after)
    (second : ∀ value, TracesRewrites palette depth (next value) (after value + others) last)
    : TracesRewrites palette depth (traced >>= next) (before + others) last where
  balanced := first.balanced.bind (fun value => (second value).balanced)
  ok result same := by
    rw [Traced.result_bind] at same
    obtain ⟨value, found, same⟩ := bind_eq_ok.mp same
    obtain ⟨count, lines⟩ := first.ok value found
    obtain ⟨count', lines'⟩ := (second value).ok result same
    rw [Traced.events_bind_of_ok found, TracePrinter.linesOf_append, first.balanced.returns,
      List.length_append]
    refine ⟨by omega, fun line member => ?_⟩
    exact (List.mem_append.mp member).elim (lines line) (lines' line)
  error error same := by
    rw [Traced.result_bind] at same
    rcases bind_eq_error.mp same with failed | ⟨value, found, same⟩
    · rw [Traced.events_bind_of_error failed]
      exact first.error error failed
    · obtain ⟨_, lines⟩ := first.ok value found
      obtain ⟨earlier, op, told, lines'⟩ := (second value).error error same
      rw [Traced.events_bind_of_ok found, TracePrinter.linesOf_append, first.balanced.returns, told]
      refine ⟨_, op, (List.append_assoc _ _ _).symm, fun line member => ?_⟩
      exact (List.mem_append.mp member).elim (lines line) (lines' line)

end TracesRewrites

-----------------------------------------------------------------------------------------
-- The pass
-----------------------------------------------------------------------------------------

namespace Expr

variable (policy : Policy) (palette : Palette) (depth : Nat)

theorem isDetail_of_map_literal (constants : List Constant)
    : ∀ event ∈ (evaluateAll policy (constants.map literal)).events, event.isDetail = true := by
  induction constants with
  | nil => exact List.forall_mem_nil _
  | cons constant constants ih =>
      have fine : (evaluate policy (.literal constant)).result = .ok (.known constant) := rfl
      rw [List.map_cons, events_evaluateAll_of_ok policy fine]
      exact List.forall_mem_cons.mpr ⟨rfl, ih⟩

/-- Of an operator over literals, only the ending is shown. -/
theorem linesOf_over_literals {op : Operator} {operands : List Expr} (rules : op.hasRules = true)
    (literals : operands.all isLiteral = true)
    : TracePrinter.linesOf .default palette depth (evaluate policy (.apply op operands)).events
      = [(ending policy op operands).lineAt palette depth] := by
  obtain ⟨constants, rfl⟩ := exists_map_literal literals
  have left := leaves_ending policy op (constants.map literal)
  have hidden : (placed (depth + 1) (evaluateAll policy (constants.map literal)).events).filter
      (·.2.isShown .default) = [] := by
    refine List.filter_eq_nil_iff.mpr (fun event member => ?_)
    have within := List.mem_map_of_mem (f := Prod.snd) member
    rw [map_snd_placed] at within
    simp [TraceEvent.isShown, isDetail_of_map_literal policy constants _ within]
  have entered : TraceEvent.isShown .default (.enter op) = false := rfl
  have shown := TraceEvent.isShown_of_leaves .default left
  rw [TracePrinter.linesOf_eq_placed, events_apply policy rules,
    placed_application (operands_balanced policy _) left]
  simp [entered, hidden, shown]

theorem events_collapse {op : Operator} {operands : List Expr}
    (closed : (op.isArithmetic && operands.all isLiteral) = true)
    : (collapse policy op operands).events = (evaluate policy (.apply op operands)).events := by
  rw [collapse, if_pos closed]
  cases result : (evaluate policy (.apply op operands)).result with
  | error error => rw [Traced.events_bind_of_error result]
  | ok value =>
      rw [Traced.events_bind_of_ok result]
      cases value.constant? <;> exact List.append_nil _

/-- One folded node: it stays without a trace, or it gives way to a literal and leaves a line. -/
theorem collapse_tracesRewrites (op : Operator) (operands : List Expr)
    : TracesRewrites palette depth (collapse policy op operands) (applicationsOfAll operands + 1)
        applications := by
  by_cases closed : (op.isArithmetic && operands.all isLiteral) = true
  · obtain ⟨arithmetic, literals⟩ := Bool.and_eq_true_iff.mp closed
    have rules := Operator.hasRules_of_isArithmetic arithmetic
    refine ⟨collapse_balanced policy op operands, fun folded same => ?_, fun error same => ?_⟩
    · obtain ⟨constant, rfl⟩ := isLiteral_iff.mp (isLiteral_of_collapse arithmetic literals same)
      rcases collapse_eq_ok same with rebuilt | ⟨_, _, _, _, evaluated⟩
      · contradiction
      · obtain ⟨values, verdict, ended⟩ := ending_of_ok evaluated
        rw [events_collapse policy closed,
          linesOf_over_literals policy palette depth rules literals, ended]
        obtain ⟨constants, rfl⟩ := exists_map_literal literals
        rw [applicationsOfAll_map_literal]
        exact ⟨rfl, List.forall_mem_singleton.mpr ⟨op, values, verdict, _, rfl⟩⟩
    · have ended := ending_of_error rules (evaluate_error_of_collapse_error same)
      rw [events_collapse policy closed,
        linesOf_over_literals policy palette depth rules literals, ended]
      exact ⟨[], op, rfl, List.forall_mem_nil _⟩
  · rw [collapse, if_neg closed, ← applications_apply]
    exact .pure _

theorem foldAll_tracesRewrites {es : List Expr}
    (h : ∀ e ∈ es, TracesRewrites palette depth (fold policy e) e.applications applications)
    : TracesRewrites palette depth (foldAll policy es) (applicationsOfAll es)
        applicationsOfAll := by
  induction es with
  | nil => exact .pure _
  | cons e rest ih =>
      obtain ⟨head, tail⟩ := List.forall_mem_cons.mp h
      rw [foldAll, applicationsOfAll_cons]
      refine head.bind (fun folded => .map ?_)
      simp only [applicationsOfAll_cons]
      exact (ih tail).frame folded.applications

/-- The pass has a line for each application that it removes, by induction on the tree. -/
theorem fold_tracesRewrites (e : Expr)
    : TracesRewrites palette depth (fold policy e) e.applications applications := by
  induction e using treeInduction with
  | literal _ | var _ _ | lambda _ _ _ => exact .pure _
  | call callee args first ih =>
      rw [fold, applications_call]
      refine first.bind (fun folded => .map ?_)
      simp only [applications_call]
      exact (foldAll_tracesRewrites policy palette depth ih).frame folded.applications
  | apply op operands ih =>
      rw [fold]
      split
      · rw [applications_apply]
        exact (foldAll_tracesRewrites policy palette depth ih).bind
          (collapse_tracesRewrites policy palette depth op)
      · exact .pure _

end Expr

namespace Session

/-- The folding pass shows one line for each rewrite. Where it comes to a tree, as many lines are
added as there are applications less in it than in the tree it comes from, those in the bodies of
lambdas counted, and each of them says what an operator came to. Where it fails, only the last line
reports a failure, with the error, and the lines before it are of the same kind as before. All of
them are indented by the depth at which the printer started.
-/
theorem fold_shows_each_rewrite (policy : Policy) (printer : TracePrinter) (e : Expr)
    (brief : printer.verbosity = .default)
    : ∃ after added,
        (fold ⟨policy, some printer⟩ e).2 = ⟨policy, some after⟩
        ∧ after.lines.toList = printer.lines.toList ++ added
        ∧ (∀ folded,
            (fold ⟨policy, some printer⟩ e).1 = .ok folded
            → added.length + folded.applications = e.applications
              ∧ ∀ line ∈ added,
                  IsApplicationLine printer.palette printer.depth line
                  ∧ indentation line = 2 * printer.depth)
        ∧ ∀ error,
            (fold ⟨policy, some printer⟩ e).1 = .error error
            → ∃ earlier op,
                added = earlier ++ [failureLine printer.depth op error]
                ∧ indentation (failureLine printer.depth op error) = 2 * printer.depth
                ∧ ∀ line ∈ earlier,
                    IsApplicationLine printer.palette printer.depth line
                    ∧ ¬IsFailureLine line
                    ∧ indentation line = 2 * printer.depth := by
  have traces := e.fold_tracesRewrites policy printer.palette printer.depth
  refine ⟨_, TracePrinter.linesOf .default printer.palette printer.depth (e.fold policy).events,
    rfl, ?_, ?_, ?_⟩
  · rw [TracePrinter.lines_handleAll, brief]
  · intro folded same
    obtain ⟨count, lines⟩ := traces.ok folded same
    exact ⟨count, fun line member => ⟨lines line member, (lines line member).indentation⟩⟩
  · intro error same
    obtain ⟨earlier, op, told, lines⟩ := traces.error error same
    refine ⟨earlier, op, told, indentation_failureLine _ _ _, fun line member => ?_⟩
    exact ⟨lines line member, (lines line member).not_failure, (lines line member).indentation⟩

/-- The argument of a call is folded in two steps, and the sum in a lambda stays. A sum that fails
on a string is reported behind the sum before it.
-/
theorem fold_shows_each_rewrite_of_call
    : ((fold ⟨.strict, some ⟨.default, .plain, 2, #[]⟩⟩
            (.call (.var "f" none)
              [.apply .plus [.int 1, .apply .minus [.int 5, .int 2]],
                .lambda ["a"] (.apply .plus [.int 1, .int 2])])).1
          = .ok (.call (.var "f" none) [.int 4, .lambda ["a"] (.apply .plus [.int 1, .int 2])])
        ∧ ∃ after added,
            (fold ⟨.strict, some ⟨.default, .plain, 2, #[]⟩⟩
                (.call (.var "f" none)
                  [.apply .plus [.int 1, .apply .minus [.int 5, .int 2]],
                    .lambda ["a"] (.apply .plus [.int 1, .int 2])])).2
              = ⟨.strict, some after⟩
            ∧ after.lines.toList = added
            ∧ added.length + 1 = 3
            ∧ ∀ line ∈ added, IsApplicationLine .plain 2 line ∧ indentation line = 4)
      ∧ (fold ⟨.lenient, some ⟨.default, .plain, 2, #[]⟩⟩
            (.apply .plus
              [.apply .plus [.int 1, .int 2], .apply .minus [.int 1, .str "a"]])).1
        = .error (.notNumeric .minus (.str "a"))
      ∧ ∃ after earlier op,
          (fold ⟨.lenient, some ⟨.default, .plain, 2, #[]⟩⟩
              (.apply .plus
                [.apply .plus [.int 1, .int 2], .apply .minus [.int 1, .str "a"]])).2
            = ⟨.lenient, some after⟩
          ∧ after.lines.toList = earlier ++ [failureLine 2 op (.notNumeric .minus (.str "a"))]
          ∧ ∀ line ∈ earlier,
              IsApplicationLine .plain 2 line ∧ ¬IsFailureLine line ∧ indentation line = 4 := by
  obtain ⟨after, added, ran, lines, folded, _⟩ :=
    fold_shows_each_rewrite .strict ⟨.default, .plain, 2, #[]⟩
      (.call (.var "f" none)
        [.apply .plus [.int 1, .apply .minus [.int 5, .int 2]],
          .lambda ["a"] (.apply .plus [.int 1, .int 2])])
      rfl
  obtain ⟨after', added', ran', lines', _, failed⟩ :=
    fold_shows_each_rewrite .lenient ⟨.default, .plain, 2, #[]⟩
      (.apply .plus [.apply .plus [.int 1, .int 2], .apply .minus [.int 1, .str "a"]]) rfl
  obtain ⟨earlier, op, told, _, before⟩ := failed _ rfl
  refine ⟨⟨rfl, after, added, ran, lines, folded _ rfl⟩, rfl, after', earlier, op, ran', ?_, before⟩
  exact lines'.trans told

end Session

end VmToolchain
