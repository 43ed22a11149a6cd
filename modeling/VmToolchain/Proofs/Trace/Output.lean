import VmToolchain.Proofs.Display
import VmToolchain.Proofs.Trace.Balance

/-! The output of a trace, line by line. No event is shown with a line feed, in colour or without, so
the lines can be told from the output alone.
-/

namespace VmToolchain

open Text

namespace Palette

variable (palette : Palette)

theorem onOneLine_sequence {code : String} (h : OnOneLine code)
    : OnOneLine (palette.sequence code) := by
  unfold sequence
  split
  · exact onOneLine_append.mpr ⟨onOneLine_append.mpr ⟨by decide, h⟩, by decide⟩
  · decide

theorem onOneLine_selected {code text : String} (selects : OnOneLine code) (h : OnOneLine text)
    : OnOneLine (palette.sequence code ++ text ++ palette.reset) :=
  onOneLine_append.mpr
    ⟨onOneLine_append.mpr ⟨palette.onOneLine_sequence selects, h⟩,
      palette.onOneLine_sequence (by decide)⟩

end Palette

namespace TraceEvent

variable (palette : Palette)

/-- Whatever an event shows, it is on one line. -/
theorem onOneLine_text (event : TraceEvent) : OnOneLine (event.text palette) := by
  have kind (op : Operator) : OnOneLine (palette.kind op.name) :=
    palette.onOneLine_selected (by decide) op.noControls_name.onOneLine
  cases event with
  | enter op => exact onOneLine_append.mpr ⟨kind op, by decide⟩
  | leaf value => exact palette.onOneLine_selected (by decide) value.noControls_display.onOneLine
  | apply op operands verdict result =>
      have values : OnOneLine (", ".intercalate (operands.map TypedValue.display)) :=
        (noControls_intercalate operands (by decide) TypedValue.noControls_display).onOneLine
      have shown : OnOneLine (palette.value result.display) :=
        palette.onOneLine_selected (by decide) result.noControls_display.onOneLine
      have rule : NoControls ("(type rule: " ++ verdict.name ++ ")") := by simp +decide
      have noted : OnOneLine (" " ++ palette.muted ("(type rule: " ++ verdict.name ++ ")")) :=
        onOneLine_append.mpr ⟨by decide, palette.onOneLine_selected (by decide) rule.onOneLine⟩
      simp only [text, TracePrinter.applicationLine, onOneLine_append]
      refine ⟨⟨⟨⟨⟨kind op, by decide⟩, values⟩, by decide⟩, shown⟩, ?_⟩
      split
      · decide
      · exact noted
  | failure op error =>
      have line : NoControls (op.name ++ " failed: " ++ error.message) := by
        simp +decide [error.noControls_message]
      exact line.onOneLine

theorem onOneLine_lineAt (depth : Nat) (event : TraceEvent)
    : OnOneLine (event.lineAt palette depth) :=
  onOneLine_append.mpr
    ⟨(noControls_repeated (by decide) (2 * depth)).onOneLine, event.onOneLine_text palette⟩

end TraceEvent

/-- What is shown of values is unambiguous, and it stays on one line. Values that are shown alike are
the same, whatever their constants and categories are. Neither a value nor an error is shown with a
line feed. So, whatever a printer is told from its start on, its output split at the line feeds falls
into the lines that it has printed, with nothing behind the last.
-/
theorem shown_values_unambiguous_on_one_line
    : (∀ value other : TypedValue, value.display = other.display ↔ value = other)
      ∧ (∀ value : TypedValue, '\n' ∉ value.display.toList)
      ∧ (∀ error : FoldError, '\n' ∉ error.message.toList)
      ∧ ∀ (verbosity : Verbosity) (palette : Palette) (events : List TraceEvent),
          (TracePrinter.handleAll { verbosity, palette } events).output.toList.splitOn '\n'
          = (TracePrinter.handleAll { verbosity, palette } events).lines.toList.map String.toList
            ++ [[]] := by
  refine ⟨fun _ _ => TypedValue.display_inj, ?_, ?_, ?_⟩
  · intro value
    exact value.noControls_display.onOneLine
  · intro error
    exact error.noControls_message.onOneLine
  · intro verbosity palette events
    refine splitOn_terminated (fun line printed => ?_)
    rw [TracePrinter.lines_handleAll, List.nil_append] at printed
    obtain ⟨depth, event, _, rfl⟩ := TracePrinter.exists_of_mem_linesOf printed
    exact event.onOneLine_lineAt palette depth

end VmToolchain
