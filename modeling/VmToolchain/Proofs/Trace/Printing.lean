import VmToolchain.Trace.Printer

/-! What a trace printer makes of events. Each event adds at most one line and moves the depth, and
nothing else changes; so the lines of a trace are told by the events alone, from a depth on.
-/

namespace VmToolchain

namespace TraceEvent

/-- The depth behind an event. -/
def depthAfter (depth : Nat) : TraceEvent → Nat
  | .enter _ => depth + 1
  | .leaf _ => depth
  | .apply _ _ _ _ | .failure _ _ => depth - 1

/-- Whether only a verbose trace shows the event. -/
def isDetail : TraceEvent → Bool
  | .enter _ | .leaf _ => true
  | .apply _ _ _ _ | .failure _ _ => false

/-- How an event is shown, without the blanks before it. -/
def text (palette : Palette) : TraceEvent → String
  | .enter op => palette.kind op.name ++ " ..."
  | .leaf value => palette.muted value.display
  | .apply op operands verdict result =>
      TracePrinter.applicationLine palette op operands verdict result
  | .failure op error => op.name ++ " failed: " ++ error.message

/-- The line of an event, if it is shown. An operator's lines stand at the depth outside of it. -/
def line? (verbosity : Verbosity) (palette : Palette) (depth : Nat) (event : TraceEvent)
    : Option String :=
  if verbosity = .default ∧ event.isDetail = true then none
  else some (TracePrinter.indent (min depth (event.depthAfter depth)) ++ event.text palette)

end TraceEvent

namespace TracePrinter

/-- The lines of events that come at a depth. -/
def linesOf (verbosity : Verbosity) (palette : Palette) : Nat → List TraceEvent → List String
  | _, [] => []
  | depth, event :: rest =>
      (event.line? verbosity palette depth).toList
        ++ linesOf verbosity palette (event.depthAfter depth) rest

/-- One event adds its line, if it is shown, and moves the depth. -/
theorem handle_eq (printer : TracePrinter) (event : TraceEvent)
    : printer.handle event
      = { printer with
          depth := event.depthAfter printer.depth
          lines := printer.lines
            ++ (event.line? printer.verbosity printer.palette printer.depth).toArray } := by
  obtain ⟨verbosity, palette, depth, lines⟩ := printer
  cases event <;> cases verbosity <;>
    simp [handle, printDetail, enter, leave, print, TraceEvent.line?, TraceEvent.isDetail,
      TraceEvent.depthAfter, TraceEvent.text]

/-- Events add their lines behind those there. -/
theorem handleAll_eq (printer : TracePrinter) (events : List TraceEvent)
    : printer.handleAll events
      = { printer with
          depth := events.foldl TraceEvent.depthAfter printer.depth
          lines := printer.lines
            ++ (linesOf printer.verbosity printer.palette printer.depth events).toArray } := by
  induction events generalizing printer with
  | nil => simp [handleAll, linesOf]
  | cons event rest ih =>
      have step : printer.handleAll (event :: rest) = (printer.handle event).handleAll rest := rfl
      rw [step, ih, handle_eq]
      cases shown : event.line? printer.verbosity printer.palette printer.depth <;>
        simp [linesOf, shown]

theorem depth_handleAll (printer : TracePrinter) (events : List TraceEvent)
    : (printer.handleAll events).depth = events.foldl TraceEvent.depthAfter printer.depth := by
  rw [handleAll_eq]

theorem lines_handleAll (printer : TracePrinter) (events : List TraceEvent)
    : (printer.handleAll events).lines.toList
      = printer.lines.toList
        ++ linesOf printer.verbosity printer.palette printer.depth events := by
  rw [handleAll_eq, Array.toList_append]

theorem lines_prefix_handleAll (printer : TracePrinter) (events : List TraceEvent)
    : printer.lines.toList <+: (printer.handleAll events).lines.toList := by
  rw [lines_handleAll]
  exact List.prefix_append _ _

end TracePrinter

end VmToolchain
