import VmToolchain.Proofs.Evaluation.Inference
import VmToolchain.Proofs.Trace.Nesting

/-! Notes on the verdict of the type rule. An application's line has one where the verdict is not the
category of the result. In the values of a tree each constant stands under its own category, and this
leaves no room for such a difference once the result is known.
-/

namespace VmToolchain

namespace TracePrinter

/-- An application's line without a note. -/
def bareLine (palette : Palette) (op : Operator) (operands : List TypedValue)
    (result : TypedValue) : String :=
  palette.kind op.name ++ " (" ++ ", ".intercalate (operands.map TypedValue.display) ++ ") -> "
    ++ palette.value result.display

/-- A line is without a note exactly when the verdict is the category of the result. -/
theorem applicationLine_eq_bareLine_iff {palette : Palette} {op : Operator}
    {operands : List TypedValue} {verdict : Category} {result : TypedValue}
    : applicationLine palette op operands verdict result = bareLine palette op operands result
      ↔ verdict = result.category := by
  by_cases same : verdict = result.category
  · rw [applicationLine, if_pos same, String.append_empty]
    exact iff_of_true rfl same
  · refine iff_of_false (fun equal => ?_) same
    have lengths := congrArg String.length equal
    rw [applicationLine, if_neg same, bareLine, String.length_append, String.length_append " "]
      at lengths
    have blank : " ".length = 1 := rfl
    omega

end TracePrinter

/-- On consistent operands the verdict on a result that is known is its category. -/
theorem Operator.verdict_of_known {op : Operator} {policy : Policy} {operands : List TypedValue}
    {verdict : Category} {result : TypedValue}
    (consistent : ∀ operand ∈ operands, operand.Consistent)
    (concluded : op.conclude policy operands = .ok (verdict, result)) (known : result.isKnown = true)
    : verdict = result.category := by
  obtain ⟨inferred, _, folded⟩ := conclude_eq_ok.mp concluded
  rcases verdict_of_fold consistent inferred folded with same | ⟨_, _, notKnown⟩
  · exact same
  · rw [known] at notKnown
    contradiction

namespace Expr

variable {policy : Policy}

theorem verdict_of_tellsOf {op : Operator} {values : List TypedValue} {verdict : Category}
    {result : TypedValue} {node : Expr}
    (tells : (TraceEvent.apply op values verdict result).TellsOf policy node)
    (known : result.isKnown = true)
    : verdict = result.category := by
  cases tells with
  | apply rules evaluated concluded =>
      exact Operator.verdict_of_known (evaluateAll_consistent evaluated) concluded known

variable (policy)

/-- Every value that a tree evaluates to is consistent: a constant in it stands under its own
category, which is never the unknown one. Wherever an operator inside the tree comes to a result that
is known, the type rule says the result's category of the values of its operands. So whatever
printer the evaluation is shown to, its lines are those of the tree's reports, and none that tells of
a known result has a note.
-/
theorem known_results_without_notes (e : Expr)
    : (∀ value constant,
        (evaluate policy e).result = .ok value
        → value.constant? = some constant
        → value.category = constant.category ∧ value.category ≠ .unknown)
      ∧ (∀ position op operands result,
          e.at? children position = some (.apply op operands)
          → (evaluate policy (.apply op operands)).result = .ok result
          → result.isKnown = true
          → ∃ values,
              (evaluateAll policy operands).result = .ok values
              ∧ op.inferType values = .ok result.category)
      ∧ ∀ printer : TracePrinter, ∃ after,
          (Session.evaluate ⟨policy, some printer⟩ e).2 = ⟨policy, some after⟩
          ∧ after.lines.toList
            = printer.lines.toList
              ++ ((e.reports policy).filter (·.event.isShown printer.verbosity)).map
                  (fun report =>
                    report.event.lineAt printer.palette (printer.depth + report.position.length))
          ∧ ∀ report ∈ e.reports policy, ∀ op values verdict result,
              report.event = .apply op values verdict result
              → result.isKnown = true
              → verdict = result.category
                ∧ ∀ depth,
                    report.event.lineAt printer.palette depth
                    = TracePrinter.indent depth
                        ++ TracePrinter.bareLine printer.palette op values result := by
  refine ⟨?_, ?_, ?_⟩
  · intro value constant evaluated found
    have own := evaluate_consistent evaluated constant found
    exact ⟨own, own ▸ constant.category_ne_unknown⟩
  · intro _ op operands result _ evaluated known
    obtain ⟨_, values, verdict, inside, concluded⟩ := evaluate_apply_eq_ok.mp evaluated
    have same := Operator.verdict_of_known (evaluateAll_consistent inside) concluded known
    exact ⟨values, inside, same ▸ (Operator.conclude_eq_ok.mp concluded).1⟩
  · intro printer
    refine ⟨_, rfl, ?_, ?_⟩
    · rw [← linesOf_evaluate]
      exact printer.lines_handleAll _
    · intro report member op values verdict result shown known
      obtain ⟨node, _, tells⟩ := tellsOf_of_mem_reports policy member
      rw [shown] at tells
      have same := verdict_of_tellsOf tells known
      refine ⟨same, fun depth => ?_⟩
      rw [shown, TraceEvent.lineAt, TraceEvent.text,
        TracePrinter.applicationLine_eq_bareLine_iff.mpr same]

/-- The sum of a number and of one that is assigned to a variable without a type. -/
theorem known_results_without_notes_of_assignment
    : (evaluate .strict (.binary .plus (.int 1) (.assign (.var "x" none) (.int 2)))).result
        = .ok ⟨some (.int 3), .integral⟩
      ∧ Category.integral = (Constant.int 3).category
      ∧ ∃ values,
          (evaluateAll .strict [.int 2, .var "x" none]).result = .ok values
          ∧ Operator.assignment.inferType values = .ok .integral := by
  obtain ⟨consistent, verdicts, _⟩ := known_results_without_notes .strict
    (.binary .plus (.int 1) (.assign (.var "x" none) (.int 2)))
  refine ⟨rfl, (consistent ⟨some (.int 3), .integral⟩ (.int 3) rfl rfl).1, ?_⟩
  exact verdicts [1] .assignment [.int 2, .var "x" none] ⟨some (.int 2), .integral⟩ rfl rfl rfl

end Expr

end VmToolchain
