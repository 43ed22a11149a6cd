import VmToolchain.Palette
import VmToolchain.Text.Basic
import VmToolchain.Trace.Basic

/-! Traces as indented lines. -/

namespace VmToolchain

/-- How much of a trace is shown. -/
inductive Verbosity where
  /-- Applications and failures. -/
  | default
  /-- Also operators as they are entered, and leaves. -/
  | verbose
deriving DecidableEq, Repr

/-- The lines printed so far, and the number of operators entered and not yet left. -/
structure TracePrinter where
  verbosity : Verbosity
  palette : Palette
  depth : Nat := 0
  lines : Array String := #[]

namespace TracePrinter

/-- Two blanks for each level. -/
def indent (depth : Nat) : String :=
  Text.repeated (2 * depth) ' '

/-- Adds a line at the current depth. -/
def print (printer : TracePrinter) (text : String) : TracePrinter :=
  { printer with lines := printer.lines.push (indent printer.depth ++ text) }

/-- Adds a line that only a verbose trace has. -/
def printDetail (printer : TracePrinter) (text : String) : TracePrinter :=
  match printer.verbosity with
  | .default => printer
  | .verbose => printer.print text

def enter (printer : TracePrinter) : TracePrinter :=
  { printer with depth := printer.depth + 1 }

/-- Leaves an operator; at depth zero there is none to leave. -/
def leave (printer : TracePrinter) : TracePrinter :=
  { printer with depth := printer.depth - 1 }

/-- An application's line. The verdict of the type rule is noted where it differs from the category
of the result.
-/
def applicationLine (palette : Palette) (op : Operator) (operands : List TypedValue)
    (verdict : Category) (result : TypedValue) : String :=
  palette.kind op.name ++ " (" ++ ", ".intercalate (operands.map TypedValue.display) ++ ") -> "
    ++ palette.value result.display
    ++ (if verdict = result.category then ""
        else " " ++ palette.muted ("(type rule: " ++ verdict.name ++ ")"))

/-- Shows one event. -/
def handle (printer : TracePrinter) : TraceEvent → TracePrinter
  | .enter op => (printer.printDetail (printer.palette.kind op.name ++ " ...")).enter
  | .leaf value => printer.printDetail (printer.palette.muted value.display)
  | .apply op operands verdict result =>
      printer.leave.print (applicationLine printer.palette op operands verdict result)
  | .failure op error => printer.leave.print (op.name ++ " failed: " ++ error.message)

/-- Shows events in order. -/
def handleAll (printer : TracePrinter) (events : List TraceEvent) : TracePrinter :=
  events.foldl handle printer

/-- All lines, each with its line feed. -/
def output (printer : TracePrinter) : String :=
  String.join (printer.lines.toList.map (· ++ "\n"))

end TracePrinter

end VmToolchain
