import VmToolchain.Rule

/-! Traced computations: a result, or the reason why there is none, and the events on the way. -/

namespace VmToolchain

/-- A step of an evaluation. An operator is entered before its operands are evaluated, and then it
is applied or it fails.
-/
inductive TraceEvent where
  | enter (op : Operator)
  | leaf (value : TypedValue)
  | apply (op : Operator) (operands : List TypedValue) (verdict : Category) (result : TypedValue)
  | failure (op : Operator) (error : FoldError)
deriving DecidableEq

/-- A computation that has run: the events in order, and how it ended. -/
structure Traced (α : Type) where
  events : List TraceEvent
  result : Except FoldError α

namespace Traced

variable {α β : Type}

/-- A result without events. -/
def ofExcept (result : Except FoldError α) : Traced α :=
  ⟨[], result⟩

/-- Goes on with the result; after a failure nothing more happens. -/
def andThen (first : Traced α) (next : α → Traced β) : Traced β :=
  match first.result with
  | .ok value =>
      let following := next value
      ⟨first.events ++ following.events, following.result⟩
  | .error error => ⟨first.events, .error error⟩

/-- Changes the result and no event. -/
def mapResult (change : α → β) (traced : Traced α) : Traced β :=
  ⟨traced.events, traced.result.map change⟩

instance : Monad Traced where
  map := mapResult
  pure value := ⟨[], .ok value⟩
  bind := andThen

/-- A leaf gives its value. -/
def leaf (value : TypedValue) : Traced TypedValue :=
  ⟨[.leaf value], .ok value⟩

/-- Leaves one after the other. -/
def leaves (values : List TypedValue) : Traced (List TypedValue) :=
  ⟨values.map .leaf, .ok values⟩

end Traced

end VmToolchain
