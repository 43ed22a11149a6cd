import Mathlib.Data.List.Forall2
import VmToolchain.ConstantPool.Builder

/-! Runs of calls on a pool builder. The constants are those of the calls, each once, in the order of
their first use, and an id that was given stays good for as long as constants are only added.
-/

namespace VmToolchain

/-- A call that may add to a pool. -/
inductive PoolCall where
  | intern (constant : Constant)
  | internValue (value : TypedValue)

/-- The constant that the call is for, which an unknown value has not. -/
def PoolCall.constant? : PoolCall → Option Constant
  | .intern constant => some constant
  | .internValue value => value.constant?

/-- The first occurrences stay when one more item comes last, and it joins them if it is new. -/
theorem eraseDups_concat {α : Type} [BEq α] [LawfulBEq α] (history : List α) (item : α)
    : (history ++ [item]).eraseDups
      = if history.contains item then history.eraseDups else history.eraseDups ++ [item] := by
  rw [List.eraseDups_append]
  by_cases found : item ∈ history
  · simp [List.removeAll, found]
  · simp [List.removeAll, found, List.eraseDups_cons]

theorem eraseDups_of_nodup {α : Type} [BEq α] [LawfulBEq α] {items : List α}
    (distinct : items.Nodup)
    : items.eraseDups = items := by
  induction items with
  | nil => rfl
  | cons item rest ih =>
      obtain ⟨new, distinct⟩ := List.nodup_cons.mp distinct
      have others : rest.filter (fun other => !other == item) = rest := by
        rw [List.filter_eq_self]
        intro other member
        have apart : other ≠ item := fun same => new (same ▸ member)
        simpa using apart
      rw [List.eraseDups_cons, others, ih distinct]

namespace PoolBuilder

/-- Answers a call with an id, or with none for an unknown value. -/
def call (builder : PoolBuilder) : PoolCall → Option Nat × PoolBuilder
  | .intern constant =>
      let (id, next) := builder.intern constant
      (some id, next)
  | .internValue value => builder.internValue value

/-- Answers calls one after the other. -/
def callAll (builder : PoolBuilder) : List PoolCall → List (Option Nat) × PoolBuilder
  | [] => ([], builder)
  | call :: rest =>
      let (id?, next) := builder.call call
      let (ids, last) := next.callAll rest
      (id? :: ids, last)

-----------------------------------------------------------------------------------------
-- One call
-----------------------------------------------------------------------------------------

theorem intern_constants (builder : PoolBuilder) (constant : Constant)
    : (builder.intern constant).2.constants
      = if constant ∈ builder.constants then builder.constants
        else builder.constants ++ [constant] := by
  unfold intern
  split <;> rfl

theorem intern_getElem? (builder : PoolBuilder) (constant : Constant)
    : (builder.intern constant).2.constants[(builder.intern constant).1]? = some constant := by
  unfold intern
  split
  · next found =>
      have inside := List.idxOf_lt_length_of_mem found
      rw [List.getElem?_eq_getElem inside, List.getElem_idxOf]
  · simp [size]

/-- What a call can do: intern its constant and answer with the id, or nothing at all. -/
theorem call_cases (builder : PoolBuilder) (call : PoolCall)
    : call.constant? = none ∧ builder.call call = (none, builder)
      ∨ ∃ constant,
          call.constant? = some constant
          ∧ builder.call call
            = (some (builder.intern constant).1, (builder.intern constant).2) := by
  cases call with
  | intern constant => exact Or.inr ⟨constant, rfl, rfl⟩
  | internValue value =>
      cases found : value.constant? with
      | none => exact Or.inl ⟨found, by simp [PoolBuilder.call, internValue, found]⟩
      | some constant =>
          exact Or.inr ⟨constant, found, by simp [PoolBuilder.call, internValue, found]⟩

/-- Constants are only ever added behind those there. -/
theorem constants_prefix_call (builder : PoolBuilder) (call : PoolCall)
    : builder.constants <+: (builder.call call).2.constants := by
  rcases builder.call_cases call with ⟨_, done⟩ | ⟨constant, _, done⟩
  · simp only [done, List.prefix_refl]
  · rw [done, intern_constants]
    split
    · exact List.prefix_refl _
    · exact List.prefix_append _ _

-----------------------------------------------------------------------------------------
-- A run of calls
-----------------------------------------------------------------------------------------

theorem constants_prefix_callAll (builder : PoolBuilder) (calls : List PoolCall)
    : builder.constants <+: (builder.callAll calls).2.constants := by
  induction calls generalizing builder with
  | nil => exact List.prefix_refl _
  | cons call rest ih => exact (builder.constants_prefix_call call).trans (ih _)

/-- A builder that holds the distinct constants of what it was asked for so far holds those of the
whole history after more calls, by induction on the calls.
-/
theorem callAll_constants {builder : PoolBuilder} {history : List Constant}
    (h : builder.constants = history.eraseDups) (calls : List PoolCall)
    : (builder.callAll calls).2.constants
      = (history ++ calls.filterMap PoolCall.constant?).eraseDups := by
  induction calls generalizing builder history with
  | nil => simpa [callAll] using h
  | cons call rest ih =>
      rw [callAll]
      rcases builder.call_cases call with ⟨none, done⟩ | ⟨constant, asked, done⟩
      · rw [List.filterMap_cons_none none, done]
        exact ih h
      · rw [List.filterMap_cons_some asked, done, List.append_cons]
        apply ih
        rw [intern_constants, h, eraseDups_concat]
        simp

/-- Adding constants is calling for each of them in turn. -/
theorem internAll_eq_callAll (builder : PoolBuilder) (constants : List Constant)
    : builder.internAll constants = (builder.callAll (constants.map PoolCall.intern)).2 := by
  induction constants generalizing builder with
  | nil => rfl
  | cons constant rest ih => exact ih (builder.intern constant).2

theorem internAll_constants (constants : List Constant)
    : (empty.internAll constants).constants = constants.eraseDups := by
  have start : empty.constants = [].eraseDups := rfl
  have asked : (constants.map PoolCall.intern).filterMap PoolCall.constant? = constants := by
    rw [List.filterMap_map]
    exact List.filterMap_some
  rw [internAll_eq_callAll, callAll_constants start, asked, List.nil_append]

/-- What a call must have been answered with: an id under which its constant is looked up, or no id
if it has no constant.
-/
def Answers (lookup : Nat → Option Constant) (call : PoolCall) : Option Nat → Prop
  | none => call.constant? = none
  | some id => ∃ constant, call.constant? = some constant ∧ lookup id = some constant

theorem Answers.mono {earlier later : List Constant} {call : PoolCall} {id? : Option Nat}
    (h : Answers (earlier[·]?) call id?) (grown : earlier <+: later)
    : Answers (later[·]?) call id? := by
  cases id? with
  | none => exact h
  | some id =>
      obtain ⟨constant, asked, found⟩ := h
      obtain ⟨added, rfl⟩ := grown
      have inside := (List.getElem?_eq_some_iff.mp found).1
      exact ⟨constant, asked, (List.getElem?_append_left inside).trans found⟩

theorem call_answers (builder : PoolBuilder) (call : PoolCall)
    : Answers ((builder.call call).2.constants[·]?) call (builder.call call).1 := by
  rcases builder.call_cases call with ⟨none, done⟩ | ⟨constant, asked, done⟩
  · rw [done]
    exact none
  · rw [done]
    exact ⟨constant, asked, builder.intern_getElem? constant⟩

/-- Every id that was given on the way is the position of its constant at the end. -/
theorem callAll_answers (builder : PoolBuilder) (calls : List PoolCall)
    : List.Forall₂ (Answers ((builder.callAll calls).2.constants[·]?)) calls
        (builder.callAll calls).1 := by
  induction calls generalizing builder with
  | nil => exact .nil
  | cons call rest ih =>
      have next := constants_prefix_callAll (builder.call call).2 rest
      exact .cons ((builder.call_answers call).mono next) (ih _)

end PoolBuilder

end VmToolchain
