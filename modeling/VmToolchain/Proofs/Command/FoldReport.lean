import VmToolchain.Command.Run
import VmToolchain.Proofs.Folding.Residue
import VmToolchain.Store

/-! What the fold command reports. The value that it shows is computed on the folded tree, and it is
the value of the tree that was given. A tree that holds calls, lambdas or operators without rules has
no value, and then the folded tree is all that is shown.
-/

namespace VmToolchain

-----------------------------------------------------------------------------------------
-- Trees that can have a value
-----------------------------------------------------------------------------------------

namespace Expr

/-- A node that no rule gives a value to: a call, a lambda or an application without rules. -/
def IsResidual : Expr → Prop
  | .literal _ | .var _ _ => False
  | .apply op _ => op.hasRules = false
  | .call _ _ | .lambda _ _ => True

/-- Such a node stands somewhere in the tree. -/
def HasResidual (e : Expr) : Prop :=
  ∃ node, node.IsResidual ∧ ∃ path, e.at? children path = some node

/-- Such a node is the root, or it stands in one of the parts. -/
theorem hasResidual_iff {e : Expr}
    : e.HasResidual ↔ e.IsResidual ∨ ∃ part ∈ e.children, part.HasResidual := by
  constructor
  · intro h
    obtain ⟨node, residual, found⟩ := h
    rcases exists_at?_iff.mp found with rfl | ⟨part, member, found⟩
    · exact Or.inl residual
    · exact Or.inr ⟨part, member, node, residual, found⟩
  · intro h
    rcases h with residual | ⟨part, member, node, residual, found⟩
    · exact ⟨e, residual, exists_at?_iff.mpr (Or.inl rfl)⟩
    · exact ⟨node, residual, exists_at?_iff.mpr (Or.inr ⟨part, member, found⟩)⟩

end Expr

namespace Command

theorem allEvaluable_eq_true_iff {es : List Expr}
    : allEvaluable es = true ↔ ∀ e ∈ es, isEvaluable e = true := by
  induction es with
  | nil => simp [allEvaluable]
  | cons e rest ih => simp [allEvaluable, ih]

/-- The test for a value looks for residual nodes, by induction on the tree. -/
theorem isEvaluable_eq_true_iff {e : Expr} : isEvaluable e = true ↔ ¬e.HasResidual := by
  induction e using Expr.treeInduction with
  | literal _ | var _ _ =>
      rw [Expr.hasResidual_iff]
      simp [isEvaluable, Expr.IsResidual, Expr.children]
  | apply op operands ih =>
      rw [Expr.hasResidual_iff, isEvaluable, Bool.and_eq_true, allEvaluable_eq_true_iff]
      simp only [Expr.IsResidual, Expr.children, not_or, not_exists, not_and,
        Bool.not_eq_false]
      exact and_congr_right (fun _ => forall_congr' (fun e => forall_congr' (ih e)))
  | call _ _ _ _ | lambda _ _ _ =>
      rw [Expr.hasResidual_iff]
      simp [isEvaluable, Expr.IsResidual]

theorem allEvaluable_congr {left right : List Expr}
    (h : List.Forall₂ (fun left right => isEvaluable left = isEvaluable right) left right)
    : allEvaluable left = allEvaluable right := by
  induction h with
  | nil => rfl
  | cons head _ ih => rw [allEvaluable, allEvaluable, head, ih]

/-- The steps of folding neither remove residual nodes nor bring in new ones. -/
theorem isEvaluable_congruence (policy : Policy)
    : Expr.FoldCongruence policy (fun folded e => isEvaluable folded = isEvaluable e) where
  refl _ := rfl
  trans := Eq.trans
  call _ _ := by rw [isEvaluable, isEvaluable]
  apply _ h := by rw [isEvaluable, isEvaluable, allEvaluable_congr h]
  collapse {_ operands _} arithmetic literals _ := by
    have all : allEvaluable operands = true := by
      refine allEvaluable_eq_true_iff.mpr (fun e member => ?_)
      obtain ⟨constant, rfl⟩ := Expr.isLiteral_iff.mp (List.all_eq_true.mp literals e member)
      rfl
    rw [isEvaluable, isEvaluable, Operator.hasRules_of_isArithmetic arithmetic, all]
    rfl

-----------------------------------------------------------------------------------------
-- The lines of the report
-----------------------------------------------------------------------------------------

/-- The report on results alone: what the printer holds and prints does not matter. -/
theorem foldText_result (session : Session) (e : Expr)
    : (foldText session e).1
      = (e.fold session.policy).result >>= fun folded =>
          if isEvaluable folded then
            (fun value => (folded, folded.display ++ "\n" ++ value.display ++ "\n"))
              <$> (folded.evaluate session.policy).result
          else .ok (folded, folded.display ++ "\n") := by
  have traced : (session.fold e).1 = (e.fold session.policy).result := rfl
  have kept : (session.fold e).2.policy = session.policy := rfl
  rw [foldText, ← traced, ← kept]
  obtain ⟨result, next⟩ := session.fold e
  cases result with
  | error error => rfl
  | ok folded =>
      have traced : (next.evaluate folded).1 = (folded.evaluate next.policy).result := rfl
      simp only [bind, Except.bind]
      rw [← traced]
      split
      · obtain ⟨result, last⟩ := next.evaluate folded
        cases result <;> rfl
      · rfl

/-- A report is made when the tree folds and, unless it holds residual nodes, has a value. This is
the value of the tree as it was given, and it is shown behind the folded tree.
-/
theorem foldText_eq_ok_iff {session : Session} {e folded : Expr} {text : String}
    : (foldText session e).1 = .ok (folded, text)
      ↔ (e.fold session.policy).result = .ok folded
        ∧ (e.HasResidual ∧ text = folded.display ++ "\n"
          ∨ ¬e.HasResidual
            ∧ ∃ value,
                (e.evaluate session.policy).result = .ok value
                ∧ text = folded.display ++ "\n" ++ value.display ++ "\n") := by
  rw [foldText_result, bind_eq_ok]
  by_cases residual : e.HasResidual
  · have line : ∀ tree,
        (e.fold session.policy).result = .ok tree → ¬isEvaluable tree = true := by
      intro tree folds
      rw [(isEvaluable_congruence session.policy).related_of_fold e folds,
        isEvaluable_eq_true_iff]
      exact fun found => found residual
    constructor
    · intro reported
      obtain ⟨tree, folds, h⟩ := reported
      rw [if_neg (line tree folds)] at h
      cases h
      exact ⟨folds, Or.inl ⟨residual, rfl⟩⟩
    · intro given
      rcases given with ⟨folds, ⟨_, rfl⟩ | ⟨free, _⟩⟩
      · exact ⟨folded, folds, if_neg (line folded folds)⟩
      · contradiction
  · have lines : ∀ tree,
        (e.fold session.policy).result = .ok tree → isEvaluable tree = true := by
      intro tree folds
      rw [(isEvaluable_congruence session.policy).related_of_fold e folds]
      exact isEvaluable_eq_true_iff.mpr residual
    constructor
    · intro reported
      obtain ⟨tree, folds, h⟩ := reported
      rw [if_pos (lines tree folds), Expr.evaluate_of_fold folds] at h
      obtain ⟨value, evaluated, h⟩ := map_eq_ok.mp h
      cases h
      exact ⟨folds, Or.inr ⟨residual, value, evaluated, rfl⟩⟩
    · intro given
      rcases given with ⟨folds, ⟨found, _⟩ | ⟨_, value, evaluated, rfl⟩⟩
      · contradiction
      · refine ⟨folded, folds, ?_⟩
        rw [if_pos (lines folded folds), Expr.evaluate_of_fold folds, evaluated]
        rfl

-----------------------------------------------------------------------------------------
-- Runs of the command
-----------------------------------------------------------------------------------------

/-- The session that a command starts with: nothing is printed yet. -/
def startSession (terminal : Bool) (options : FoldOptions) : Session where
  policy := options.policy
  printer := options.verbosity?.map (fun verbosity =>
    { verbosity, palette := options.color.palette terminal : TracePrinter })

/-- The lines that folding an expression leaves in the trace. -/
def foldTrace (terminal : Bool) (options : FoldOptions) (e : Expr) : String :=
  traceOf (foldText (startSession terminal options) e).2

section Runs

variable {m : Type → Type} [Monad m] {files : FileAccess m} {terminal : Bool}
  {options : FoldOptions} {e folded : Expr} {text : String}

/-- Without a report nothing is written, and the command fails. -/
theorem foldExpr_of_error {error : FoldError}
    (failed : (foldText (startSession terminal options) e).1 = .error error)
    : foldExpr files terminal options e
      = pure (.failure (foldTrace terminal options e) (.fold error)) := by
  unfold startSession at failed
  unfold foldExpr foldTrace startSession
  dsimp only
  generalize foldText _ e = ran at failed ⊢
  obtain ⟨result, session⟩ := ran
  cases failed
  rfl

/-- A report with no file named for the constants is the whole outcome. -/
theorem foldExpr_of_no_output
    (reported : (foldText (startSession terminal options) e).1 = .ok (folded, text))
    (unnamed : options.output? = none)
    : foldExpr files terminal options e
      = pure (.success text (foldTrace terminal options e)) := by
  unfold startSession at reported
  unfold foldExpr foldTrace startSession
  dsimp only
  generalize foldText _ e = ran at reported ⊢
  obtain ⟨result, session⟩ := ran
  cases reported
  dsimp only
  rw [unnamed]

/-- The outcome of a report once the constants have been written to a file, or could not be. -/
def writtenOutcome (trace text output : String) : Except CommandFailure Nat → Outcome
  | .error failure => .failure trace failure
  | .ok count =>
      .success text (trace ++ "wrote " ++ output ++ " (" ++ count.repr ++ " constants)\n")

/-- With a file named for the constants, they are written after the report is made. -/
theorem foldExpr_of_output {output : String}
    (reported : (foldText (startSession terminal options) e).1 = .ok (folded, text))
    (named : options.output? = some output)
    : foldExpr files terminal options e
      = writePool files folded output >>= fun written =>
          pure (writtenOutcome (foldTrace terminal options e) text output written) := by
  unfold startSession at reported
  unfold foldExpr foldTrace startSession
  dsimp only
  generalize foldText _ e = ran at reported ⊢
  obtain ⟨result, session⟩ := ran
  cases reported
  dsimp only
  rw [named]
  refine congrArg (writePool files folded output >>= ·) (funext fun written => ?_)
  cases written <;> rfl

end Runs

/-- The session succeeds in reporting on the expression, with this text. -/
def Reports (session : Session) (e : Expr) (text : String) : Prop :=
  ∃ folded, (foldText session e).1 = .ok (folded, text)

/-- Whether there is a report and what it says is a matter of the policy alone. -/
theorem reports_congr {left right : Session} (same : left.policy = right.policy) (e : Expr)
    (text : String)
    : Reports left e text ↔ Reports right e text := by
  simp only [Reports, foldText_eq_ok_iff, same]

/-- The value that is shown is the value of the tree that was given. Whatever the printer of the
session holds, a tree without calls, lambdas and operators without rules is reported exactly when it
has a value, and the report is the folded tree and that value. Any other tree is reported exactly
when it can be folded, and the report is the folded tree alone. A command that names no file for the
constants shows the report, or it fails where there is none.
-/
theorem report_shows_given_value (session : Session) (e : Expr)
    : (¬e.HasResidual
        → ((∃ text, Reports session e text)
            ↔ ∃ value, (e.evaluate session.policy).result = .ok value)
          ∧ ∀ text,
              Reports session e text
              ↔ ∃ folded value,
                  (e.fold session.policy).result = .ok folded
                  ∧ (e.evaluate session.policy).result = .ok value
                  ∧ text = folded.display ++ "\n" ++ value.display ++ "\n")
      ∧ (e.HasResidual
        → ((∃ text, Reports session e text)
            ↔ ∃ folded, (e.fold session.policy).result = .ok folded)
          ∧ ∀ text,
              Reports session e text
              ↔ ∃ folded,
                  (e.fold session.policy).result = .ok folded
                  ∧ text = folded.display ++ "\n")
      ∧ ∀ (m : Type → Type) [Monad m] (files : FileAccess m) (terminal : Bool)
          (options : FoldOptions),
          options.policy = session.policy
          → options.output? = none
          → ∃ trace,
              (∀ text,
                Reports session e text
                → foldExpr files terminal options e = pure (.success text trace))
              ∧ ((∀ text, ¬Reports session e text)
                → ∃ error,
                    foldExpr files terminal options e
                      = pure (.failure trace (.fold error))) := by
  refine ⟨fun free => ?_, fun residual => ?_, ?_⟩
  · have lines : ∀ text,
        Reports session e text
        ↔ ∃ folded value,
            (e.fold session.policy).result = .ok folded
            ∧ (e.evaluate session.policy).result = .ok value
            ∧ text = folded.display ++ "\n" ++ value.display ++ "\n" := by
      intro text
      simp [Reports, foldText_eq_ok_iff, free]
    refine ⟨⟨?_, ?_⟩, lines⟩
    · intro reports
      obtain ⟨text, reported⟩ := reports
      obtain ⟨_, value, _, evaluated, _⟩ := (lines text).mp reported
      exact ⟨value, evaluated⟩
    · intro evaluates
      obtain ⟨value, evaluated⟩ := evaluates
      obtain ⟨folded, folds⟩ := Expr.exists_folded_of_evaluate evaluated
      exact ⟨_, (lines _).mpr ⟨folded, value, folds, evaluated, rfl⟩⟩
  · have line : ∀ text,
        Reports session e text
        ↔ ∃ folded,
            (e.fold session.policy).result = .ok folded ∧ text = folded.display ++ "\n" := by
      intro text
      simp [Reports, foldText_eq_ok_iff, residual]
    exact ⟨by simp [line, exists_comm], line⟩
  · intro m _ files terminal options same unnamed
    have start : (startSession terminal options).policy = session.policy := same
    have alike := reports_congr start e
    refine ⟨foldTrace terminal options e, fun text reported => ?_, fun unreported => ?_⟩
    · obtain ⟨folded, reported⟩ := (alike text).mpr reported
      exact foldExpr_of_no_output reported unnamed
    · cases ran : (foldText (startSession terminal options) e).1 with
      | error error => exact ⟨error, foldExpr_of_error ran⟩
      | ok report => exact (unreported report.2 ((alike report.2).mp ⟨report.1, ran⟩)).elim

/-- A difference is folded in its left operand and has a value all the same; a call is folded in its
argument and has none.
-/
theorem report_shows_given_value_of_difference_and_call
    : (¬Expr.HasResidual (.apply .minus [.apply .plus [.int 1, .int 2], .var "x" none])
        ∧ Reports ⟨.strict, some { verbosity := .verbose, palette := .plain, depth := 3 }⟩
            (.apply .minus [.apply .plus [.int 1, .int 2], .var "x" none])
            "(- 3 x)\n?: integral\n")
      ∧ (Expr.HasResidual (.call (.var "f" none) [.apply .plus [.int 1, .int 2]])
        ∧ Reports ⟨.lenient, none⟩ (.call (.var "f" none) [.apply .plus [.int 1, .int 2]])
            "(call f 3)\n")
      ∧ ∃ trace,
          foldExpr Store.access false ⟨"e.json", .strict, 1, none, .never⟩
              (.apply .minus [.apply .plus [.int 1, .int 2], .var "x" none])
            = pure (.success "(- 3 x)\n?: integral\n" trace) := by
  have free : ¬Expr.HasResidual (.apply .minus [.apply .plus [.int 1, .int 2], .var "x" none]) :=
    isEvaluable_eq_true_iff.mp rfl
  have residual : Expr.HasResidual (.call (.var "f" none) [.apply .plus [.int 1, .int 2]]) :=
    Expr.hasResidual_iff.mpr (Or.inl trivial)
  have difference := report_shows_given_value
    ⟨.strict, some { verbosity := .verbose, palette := .plain, depth := 3 }⟩
    (.apply .minus [.apply .plus [.int 1, .int 2], .var "x" none])
  have call := report_shows_given_value ⟨.lenient, none⟩
    (.call (.var "f" none) [.apply .plus [.int 1, .int 2]])
  have shown := ((difference.1 free).2 "(- 3 x)\n?: integral\n").mpr
    ⟨.apply .minus [.int 3, .var "x" none], .unknown .integral, rfl, rfl, by decide⟩
  obtain ⟨trace, ran, _⟩ := difference.2.2 (StateM Store) Store.access false
    ⟨"e.json", .strict, 1, none, .never⟩ rfl rfl
  refine ⟨⟨free, shown⟩, ⟨residual, ?_⟩, trace, ran _ shown⟩
  exact ((call.2.1 residual).2 _).mpr ⟨.call (.var "f" none) [.int 3], rfl, by decide⟩

end Command

end VmToolchain
