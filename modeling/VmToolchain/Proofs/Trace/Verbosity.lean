import VmToolchain.Proofs.Trace.Balance

/-! A short trace and a long one of the same events. The depth moves whether a line is shown or not,
so the short trace is the long one without the lines at which operators are entered and leaves are
met.
-/

namespace VmToolchain

namespace TracePrinter

/-- The events, each with the lines that the printer adds when it is told of it. -/
def additions (printer : TracePrinter) : List TraceEvent → List (TraceEvent × List String)
  | [] => []
  | event :: rest =>
      (event, (printer.handle event).lines.toList.drop printer.lines.size)
        :: (printer.handle event).additions rest

/-- The lines that the printer adds where operators are left. -/
def linesAtEnds (printer : TracePrinter) (events : List TraceEvent) : List String :=
  ((printer.additions events).filter (·.1.leaves)).flatMap Prod.snd

/-- One event adds its line, if it is shown. -/
theorem lines_handle (printer : TracePrinter) (event : TraceEvent)
    : (printer.handle event).lines.toList.drop printer.lines.size
      = (event.line? printer.verbosity printer.palette printer.depth).toList := by
  rw [handle_eq]
  simp

/-- A verbose printer adds one line for each event, where the event stands, by induction on the
events.
-/
theorem additions_verbose (palette : Palette) (depth : Nat) (lines : Array String)
    (events : List TraceEvent)
    : additions ⟨.verbose, palette, depth, lines⟩ events
      = (placed depth events).map (fun event => (event.2, [event.2.lineAt palette event.1])) := by
  induction events generalizing depth lines with
  | nil => rfl
  | cons event rest ih =>
      rw [additions, lines_handle, placed, List.map_cons, handle_eq, ih]
      rfl

theorem linesAtEnds_verbose (palette : Palette) (depth : Nat) (lines : Array String)
    (events : List TraceEvent)
    : linesAtEnds ⟨.verbose, palette, depth, lines⟩ events
      = ((placed depth events).filter (·.2.leaves)).map
          (fun event => event.2.lineAt palette event.1) := by
  rw [linesAtEnds, additions_verbose, List.filter_map, List.flatMap_map, List.map_eq_flatMap]
  rfl

/-- There is one such line for each operator that is left. -/
theorem length_linesAtEnds (palette : Palette) (depth : Nat) (lines : Array String)
    (events : List TraceEvent)
    : (linesAtEnds ⟨.verbose, palette, depth, lines⟩ events).length
      = events.countP TraceEvent.leaves := by
  have counted :=
    List.countP_map (p := TraceEvent.leaves) (f := Prod.snd) (l := placed depth events)
  rw [map_snd_placed] at counted
  rw [linesAtEnds_verbose, List.length_map, ← List.countP_eq_length_filter, counted]
  rfl

/-- A short trace shows the events at which operators are left, and no others. -/
theorem linesOf_default (palette : Palette) (depth : Nat) (events : List TraceEvent)
    : linesOf .default palette depth events
      = ((placed depth events).filter (·.2.leaves)).map
          (fun event => event.2.lineAt palette event.1) := by
  have shown (event : TraceEvent) : event.isShown .default = event.leaves := by
    cases event <;> rfl
  simp only [linesOf_eq_placed, shown]

/-- All lines of a long trace are those that are added for its events. -/
theorem linesOf_verbose (palette : Palette) (depth : Nat) (lines : Array String)
    (events : List TraceEvent)
    : linesOf .verbose palette depth events
      = (additions ⟨.verbose, palette, depth, lines⟩ events).flatMap Prod.snd := by
  have all : (placed depth events).filter (·.2.isShown .verbose) = placed depth events :=
    List.filter_eq_self.mpr (fun _ _ => rfl)
  rw [linesOf_eq_placed, all, additions_verbose, List.flatMap_map, List.map_eq_flatMap]

/-- A short trace is a long one with lines left out. Whatever the events are, balanced or not, from
any depth and in any colours, the lines that a short trace adds are those that a long trace adds
where an operator is applied or fails, the same lines in the same order and one for each such event.
Two sessions with such printers are told the same events, whatever they are asked for.
-/
theorem short_trace_keeps_lines_at_ends (palette : Palette) (depth : Nat)
    (short long : Array String)
    : (∀ events,
        (handleAll ⟨.default, palette, depth, short⟩ events).lines.toList
            = short.toList ++ linesAtEnds ⟨.verbose, palette, depth, long⟩ events
        ∧ (handleAll ⟨.verbose, palette, depth, long⟩ events).lines.toList
            = long.toList
              ++ (additions ⟨.verbose, palette, depth, long⟩ events).flatMap Prod.snd
        ∧ (linesAtEnds ⟨.verbose, palette, depth, long⟩ events).length
            = events.countP TraceEvent.leaves)
      ∧ ∀ policy calls, ∃ events,
          (Session.callAll ⟨policy, some ⟨.default, palette, depth, short⟩⟩ calls).2.printer
              = some (handleAll ⟨.default, palette, depth, short⟩ events)
          ∧ (Session.callAll ⟨policy, some ⟨.verbose, palette, depth, long⟩⟩ calls).2.printer
              = some (handleAll ⟨.verbose, palette, depth, long⟩ events) := by
  constructor
  · intro events
    refine ⟨?_, ?_, length_linesAtEnds palette depth long events⟩
    · rw [lines_handleAll, linesOf_default, linesAtEnds_verbose]
    · rw [lines_handleAll, linesOf_verbose]
  · intro policy calls
    refine ⟨SessionCall.events policy calls, ?_, ?_⟩
    · rw [Session.callAll_eq, Option.map_some]
    · rw [Session.callAll_eq, Option.map_some]

end TracePrinter

end VmToolchain
