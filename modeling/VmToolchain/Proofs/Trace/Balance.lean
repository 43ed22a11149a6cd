import VmToolchain.Proofs.Session
import VmToolchain.Proofs.Trace.Lines

/-! The depth of a trace. Every operator that is entered is left again, whether it is applied or
fails, so a computation ends at the depth at which it starts, and it never leaves an operator that
it has not entered. Hence no line of it stands further out.
-/

namespace VmToolchain

-----------------------------------------------------------------------------------------
-- Operators entered and left
-----------------------------------------------------------------------------------------

namespace Traced

variable {α β : Type} {first : Traced α} {next : α → Traced β}

theorem events_bind_of_ok {value : α} (h : first.result = .ok value)
    : (first >>= next).events = first.events ++ (next value).events := by
  obtain ⟨events, result⟩ := first
  cases h
  rfl

theorem events_bind_of_error {error : FoldError} (h : first.result = .error error)
    : (first >>= next).events = first.events := by
  obtain ⟨events, result⟩ := first
  cases h
  rfl

end Traced

namespace TraceEvent

/-- Whether an operator is left. -/
def leaves : TraceEvent → Bool
  | .apply _ _ _ _ | .failure _ _ => true
  | .enter _ | .leaf _ => false

/-- The depth behind an event; at depth zero there must be no operator to leave. -/
def depthAfter? (depth : Nat) (event : TraceEvent) : Option Nat :=
  if event.leaves = true ∧ depth = 0 then none else some (event.depthAfter depth)

/-- Outside of what was entered, the depth does not matter. -/
theorem depthAfter_add {inner after : Nat} {event : TraceEvent}
    (h : event.depthAfter? inner = some after) (depth : Nat)
    : event.depthAfter (depth + inner) = depth + after
      ∧ (event.leaves = true → 0 < inner) := by
  cases event with
  | enter _ | leaf _ =>
      cases h
      exact ⟨rfl, nofun⟩
  | apply _ _ _ _ | failure _ _ =>
      simp only [depthAfter?, leaves, depthAfter, true_and, Option.ite_none_left_eq_some,
        Option.some.injEq] at h ⊢
      omega

end TraceEvent

/-- The depth behind events, if each operator that is left was entered. -/
def endDepth? (depth : Nat) (events : List TraceEvent) : Option Nat :=
  events.foldlM TraceEvent.depthAfter? depth

theorem endDepth?_cons {depth after : Nat} {event : TraceEvent} {rest : List TraceEvent}
    : endDepth? depth (event :: rest) = some after
      ↔ ∃ next, event.depthAfter? depth = some next ∧ endDepth? next rest = some after := by
  rw [endDepth?, List.foldlM_cons]
  exact Option.bind_eq_some_iff

theorem endDepth?_append {depth after : Nat} {first later : List TraceEvent}
    : endDepth? depth (first ++ later) = some after
      ↔ ∃ middle, endDepth? depth first = some middle ∧ endDepth? middle later = some after := by
  rw [endDepth?, List.foldlM_append]
  exact Option.bind_eq_some_iff

/-- The depth goes up and down in the same way wherever it starts, by induction on the events. -/
theorem foldl_depthAfter_add {inner after : Nat} {events : List TraceEvent}
    (h : endDepth? inner events = some after) (depth : Nat)
    : events.foldl TraceEvent.depthAfter (depth + inner) = depth + after := by
  induction events generalizing inner with
  | nil =>
      cases h
      rfl
  | cons event rest ih =>
      obtain ⟨next, step, later⟩ := endDepth?_cons.mp h
      rw [List.foldl_cons, (event.depthAfter_add step depth).1, ih later]

theorem endDepth?_add {inner after : Nat} {events : List TraceEvent}
    (h : endDepth? inner events = some after) (depth : Nat)
    : endDepth? (depth + inner) events = some (depth + after) := by
  induction events generalizing inner with
  | nil =>
      cases h
      rfl
  | cons event rest ih =>
      obtain ⟨next, step, later⟩ := endDepth?_cons.mp h
      obtain ⟨moved, entered⟩ := event.depthAfter_add step depth
      have allowed : ¬(event.leaves = true ∧ depth + inner = 0) := by
        rintro ⟨left, zero⟩
        have := entered left
        omega
      refine endDepth?_cons.mpr ⟨depth + next, ?_, ih later⟩
      rw [TraceEvent.depthAfter?, if_neg allowed, moved]

/-- Each operator is left that is entered, and none else. -/
def Balanced (events : List TraceEvent) : Prop :=
  endDepth? 0 events = some 0

namespace Balanced

theorem nil : Balanced [] := rfl

theorem leaf (value : TypedValue) : Balanced [.leaf value] := rfl

theorem returns {events : List TraceEvent} (h : Balanced events) (depth : Nat)
    : events.foldl TraceEvent.depthAfter depth = depth :=
  foldl_depthAfter_add h depth

/-- An operator is only left where the depth has something to lose, however little it starts with.
-/
theorem depthAfter_succ {earlier later : List TraceEvent} {event : TraceEvent}
    (h : Balanced (earlier ++ event :: later)) (left : event.leaves = true) (depth : Nat)
    : event.depthAfter (earlier.foldl TraceEvent.depthAfter depth) + 1
      = earlier.foldl TraceEvent.depthAfter depth := by
  obtain ⟨inner, before, after⟩ := endDepth?_append.mp h
  obtain ⟨next, step, _⟩ := endDepth?_cons.mp after
  have entered := (event.depthAfter_add step depth).2 left
  have reached : earlier.foldl TraceEvent.depthAfter depth = depth + inner :=
    foldl_depthAfter_add before depth
  rw [reached]
  cases event with
  | apply _ _ _ _ | failure _ _ =>
      rw [TraceEvent.depthAfter]
      omega
  | enter _ | leaf _ => contradiction

theorem append {first later : List TraceEvent} (left : Balanced first) (right : Balanced later)
    : Balanced (first ++ later) :=
  endDepth?_append.mpr ⟨0, left, right⟩

theorem application {events : List TraceEvent} {last : TraceEvent} (inner : Balanced events)
    (left : last.leaves = true) (op : Operator)
    : Balanced (.enter op :: events ++ [last]) := by
  refine endDepth?_cons.mpr ⟨1, rfl, endDepth?_append.mpr ⟨1, endDepth?_add inner 1, ?_⟩⟩
  cases last with
  | apply _ _ _ _ | failure _ _ => rfl
  | enter _ | leaf _ => contradiction

theorem leaves (values : List TypedValue) : Balanced (values.map .leaf) := by
  induction values with
  | nil => exact nil
  | cons value rest ih => exact (leaf value).append ih

theorem bind {α β : Type} {first : Traced α} {next : α → Traced β} (h : Balanced first.events)
    (following : ∀ value, Balanced (next value).events)
    : Balanced (first >>= next).events := by
  cases result : first.result with
  | error error => rwa [Traced.events_bind_of_error result]
  | ok value =>
      rw [Traced.events_bind_of_ok result]
      exact h.append (following value)

theorem apply (policy : Policy) (op : Operator) (operands : Unit → Traced (List TypedValue))
    (inner : Balanced (operands ()).events)
    : Balanced (policy.apply op operands).events := by
  by_cases rules : op.hasRules = true
  · rcases policy.apply_cases rules operands with
      ⟨_, _, applied⟩ | ⟨_, _, _, _, applied⟩ | ⟨_, _, _, _, _, applied⟩
    · exact applied ▸ inner.application rfl op
    · exact applied ▸ inner.application rfl op
    · exact applied ▸ inner.application rfl op
  · rw [Policy.apply, if_neg rules]
    exact nil

theorem inferApply (op : Operator) (operands : Unit → Traced (List TypedValue))
    (inner : Balanced (operands ()).events)
    : Balanced (Policy.inferApply op operands).events := by
  unfold Policy.inferApply
  split
  · exact inner.bind (fun _ => nil)
  · exact nil

end Balanced

namespace Expr

variable (policy : Policy)

theorem evaluateAll_balanced {es : List Expr} (h : ∀ e ∈ es, Balanced (evaluate policy e).events)
    : Balanced (evaluateAll policy es).events := by
  induction es with
  | nil => exact .nil
  | cons e rest ih =>
      obtain ⟨head, tail⟩ := List.forall_mem_cons.mp h
      rw [evaluateAll]
      exact head.bind (fun _ => ih tail)

/-- Evaluation leaves what it enters, by induction on the tree. -/
theorem evaluate_balanced (e : Expr) : Balanced (evaluate policy e).events := by
  induction e using treeInduction with
  | literal value => exact .leaf _
  | var name type => cases type <;> exact .leaf _
  | apply op operands ih =>
      rw [evaluate]
      exact .apply policy op _ (evaluateAll_balanced policy ih)
  | call callee args _ ih =>
      rw [evaluate]
      exact .apply policy .functionCall _ (evaluateAll_balanced policy ih)
  | lambda params body _ =>
      rw [evaluate]
      exact .apply policy .arrow _ .nil

theorem operands_balanced (es : List Expr) : Balanced (evaluateAll policy es).events :=
  evaluateAll_balanced policy (fun e _ => evaluate_balanced policy e)

theorem infer_balanced (e : Expr) : Balanced (infer policy e).events := by
  cases e <;> rw [infer]
  case literal value => exact evaluate_balanced policy (.literal value)
  case var name type => exact evaluate_balanced policy (.var name type)
  case apply op es => exact .inferApply op _ (operands_balanced policy es)
  case call callee args => exact .inferApply .functionCall _ (operands_balanced policy args)
  case lambda => exact .inferApply .arrow _ .nil

theorem collapse_balanced (op : Operator) (operands : List Expr)
    : Balanced (collapse policy op operands).events := by
  unfold collapse
  split
  · refine (evaluate_balanced policy _).bind (fun value => ?_)
    cases value.constant? <;> exact .nil
  · exact .nil

theorem foldAll_balanced {es : List Expr} (h : ∀ e ∈ es, Balanced (fold policy e).events)
    : Balanced (foldAll policy es).events := by
  induction es with
  | nil => exact .nil
  | cons e rest ih =>
      obtain ⟨head, tail⟩ := List.forall_mem_cons.mp h
      rw [foldAll]
      exact head.bind (fun _ => ih tail)

/-- Folding evaluates one node after the other, and each of them leaves what it enters. -/
theorem fold_balanced (e : Expr) : Balanced (fold policy e).events := by
  induction e using treeInduction with
  | literal _ | var _ _ | lambda _ _ _ => exact .nil
  | call callee args first ih =>
      rw [fold]
      exact first.bind (fun _ => foldAll_balanced policy ih)
  | apply op operands ih =>
      rw [fold]
      split
      · exact (foldAll_balanced policy ih).bind (collapse_balanced policy op)
      · exact .nil

end Expr

theorem SessionCall.balanced (call : SessionCall) (policy : Policy)
    : Balanced (call.recorded policy).2 := by
  cases call with
  | evaluate e => exact e.evaluate_balanced policy
  | infer e => exact e.infer_balanced policy
  | fold e => exact e.fold_balanced policy
  | apply op operands => exact .apply policy op _ (Expr.operands_balanced policy operands)
  | inferApply op operands => exact .inferApply op _ (Expr.operands_balanced policy operands)
  | applyValues op values => exact .apply policy op _ (.leaves values)
  | inferValues op values => exact .inferApply op _ (.leaves values)
  | leaf value => exact .leaf value

-----------------------------------------------------------------------------------------
-- Where lines stand
-----------------------------------------------------------------------------------------

/-- Whether the event has a line. -/
def TraceEvent.isShown (verbosity : Verbosity) (event : TraceEvent) : Bool :=
  verbosity == .verbose || !event.isDetail

theorem TraceEvent.isShown_of_leaves (verbosity : Verbosity) {event : TraceEvent}
    (left : event.leaves = true)
    : event.isShown verbosity = true := by
  cases event with
  | apply _ _ _ _ | failure _ _ => exact Bool.or_true _
  | enter _ | leaf _ => contradiction

/-- The events, each with the depth at which its line stands. -/
def placed : Nat → List TraceEvent → List (Nat × TraceEvent)
  | _, [] => []
  | depth, event :: rest =>
      (min depth (event.depthAfter depth), event) :: placed (event.depthAfter depth) rest

theorem placed_append (depth : Nat) (first later : List TraceEvent)
    : placed depth (first ++ later)
      = placed depth first ++ placed (first.foldl TraceEvent.depthAfter depth) later := by
  induction first generalizing depth with
  | nil => rfl
  | cons event rest ih =>
      rw [List.cons_append, placed, ih, placed, List.foldl_cons, List.cons_append]

theorem map_snd_placed (depth : Nat) (events : List TraceEvent)
    : (placed depth events).map Prod.snd = events := by
  induction events generalizing depth with
  | nil => rfl
  | cons event rest ih => rw [placed, List.map_cons, ih]

namespace TracePrinter

/-- The lines are those of the events that are shown, each at its depth. -/
theorem linesOf_eq_placed (verbosity : Verbosity) (palette : Palette) (depth : Nat)
    (events : List TraceEvent)
    : linesOf verbosity palette depth events
      = ((placed depth events).filter (·.2.isShown verbosity)).map
          (fun event => event.2.lineAt palette event.1) := by
  induction events generalizing depth with
  | nil => rfl
  | cons event rest ih =>
      rw [linesOf, ih, placed]
      cases verbosity <;> cases event <;> rfl

/-- Each line is that of an event. -/
theorem exists_of_mem_linesOf {verbosity : Verbosity} {palette : Palette} {depth : Nat}
    {events : List TraceEvent} {line : String}
    (member : line ∈ linesOf verbosity palette depth events)
    : ∃ level, ∃ event ∈ events, line = event.lineAt palette level := by
  rw [linesOf_eq_placed] at member
  obtain ⟨⟨level, event⟩, shown, rfl⟩ := List.mem_map.mp member
  have within := List.mem_map_of_mem (f := Prod.snd) (List.mem_of_mem_filter shown)
  rw [map_snd_placed] at within
  exact ⟨level, event, within, rfl⟩

theorem linesOf_append (verbosity : Verbosity) (palette : Palette) (depth : Nat)
    (first later : List TraceEvent)
    : linesOf verbosity palette depth (first ++ later)
      = linesOf verbosity palette depth first
        ++ linesOf verbosity palette (first.foldl TraceEvent.depthAfter depth) later := by
  simp only [linesOf_eq_placed, placed_append, List.filter_append, List.map_append]

end TracePrinter

/-- No line stands further out than the depth at which the events start. The induction carries the
number of operators entered and not yet left.
-/
theorem le_of_mem_placed {depth inner after : Nat} {events : List TraceEvent}
    (h : endDepth? inner events = some after) {event : Nat × TraceEvent}
    (member : event ∈ placed (depth + inner) events)
    : depth ≤ event.1 := by
  induction events generalizing inner with
  | nil => contradiction
  | cons first rest ih =>
      obtain ⟨next, step, later⟩ := endDepth?_cons.mp h
      obtain ⟨moved, _⟩ := first.depthAfter_add step depth
      rw [placed, moved] at member
      rcases List.mem_cons.mp member with rfl | member
      · dsimp only
        omega
      · exact ih later member

/-- The lines of an operator stand around those of its operands, which are one level further in. -/
theorem placed_application {events : List TraceEvent} {last : TraceEvent} (inner : Balanced events)
    (left : last.leaves = true) (op : Operator) (depth : Nat)
    : placed depth (.enter op :: events ++ [last])
      = (depth, .enter op) :: placed (depth + 1) events ++ [(depth, last)] := by
  have outside : min (depth + 1) (last.depthAfter (depth + 1)) = depth := by
    cases last with
    | apply _ _ _ _ | failure _ _ => exact Nat.min_eq_right (Nat.le_succ depth)
    | enter _ | leaf _ => contradiction
  have entered : min depth (TraceEvent.depthAfter depth (.enter op)) = depth :=
    Nat.min_eq_left (Nat.le_succ depth)
  rw [List.cons_append, placed, entered, TraceEvent.depthAfter, placed_append, inner.returns,
    placed, outside, placed]
  rfl

end VmToolchain
