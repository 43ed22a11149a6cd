import Mathlib.Data.Finset.Card
import Mathlib.Data.List.TakeWhile
import VmToolchain.Proofs.ConstantPool.Interning

/-! Ids of a pool that is being built. They count the distinct constants in the order in which these
first come, they are dense, and whatever is asked later they stay as they are.
-/

namespace VmToolchain

/-- A request to a pool builder: a call that may add to it, or a question for an id. -/
inductive PoolRequest where
  | call (call : PoolCall)
  | get (constant : Constant)

/-- The constant that the request interns, if it does. -/
def PoolRequest.interned? : PoolRequest → Option Constant
  | .call asked => asked.constant?
  | .get _ => none

namespace PoolBuilder

/-- Answers a request with an id, if there is one. -/
def answer (builder : PoolBuilder) : PoolRequest → Option Nat × PoolBuilder
  | .call asked => builder.call asked
  | .get constant => (builder.get? constant, builder)

/-- The builder after requests to a new one. -/
def after (requests : List PoolRequest) : PoolBuilder :=
  requests.foldl (fun builder request => (builder.answer request).2) empty

/-- The constants that requests intern, as often as they do. -/
def interned (requests : List PoolRequest) : List Constant :=
  requests.filterMap PoolRequest.interned?

/-- The number of distinct constants that come before a constant comes first. -/
def distinctBefore (history : List Constant) (constant : Constant) : Nat :=
  (history.takeWhile (· != constant)).toFinset.card

-----------------------------------------------------------------------------------------
-- Distinct constants
-----------------------------------------------------------------------------------------

theorem length_eraseDups (history : List Constant)
    : history.eraseDups.length = history.toFinset.card := by
  have distinct := (empty.internAll history).nodup
  rw [internAll_constants] at distinct
  rw [← List.toFinset_card_of_nodup distinct]
  congr 1
  ext constant
  simp

/-- Before a constant that never comes there are all. -/
theorem distinctBefore_of_not_mem {history : List Constant} {constant : Constant}
    (new : constant ∉ history)
    : distinctBefore history constant = history.eraseDups.length := by
  have whole : history.takeWhile (· != constant) = history := by
    rw [List.takeWhile_eq_self_iff]
    intro other member
    have apart : other ≠ constant := fun same => new (same ▸ member)
    simpa using apart
  rw [distinctBefore, whole, length_eraseDups]

/-- What comes behind a constant does not count for it. -/
theorem distinctBefore_append (history later : List Constant) (constant : Constant)
    : distinctBefore (history ++ constant :: later) constant = distinctBefore history constant := by
  rw [distinctBefore, distinctBefore, List.takeWhile_append]
  split
  · next whole =>
      have all : history.takeWhile (· != constant) = history :=
        (List.takeWhile_sublist _).eq_of_length whole
      simp [all]
  · rfl

/-- Among the distinct constants, a constant has the place that those before it leave to it. One
that is not there would come next.
-/
theorem idxOf_eraseDups (history : List Constant) (constant : Constant)
    : history.eraseDups.idxOf constant = distinctBefore history constant := by
  by_cases found : constant ∈ history
  · obtain ⟨before, later, rfl, new⟩ := List.eq_append_cons_of_mem found
    have first : constant ∉ before.eraseDups := by simpa using new
    rw [distinctBefore_append, distinctBefore_of_not_mem new, List.eraseDups_append,
      List.idxOf_append_of_notMem first]
    simp [List.removeAll, new, List.eraseDups_cons]
  · have absent : constant ∉ history.eraseDups := by simpa using found
    rw [distinctBefore_of_not_mem found, List.idxOf_eq_length absent]

-----------------------------------------------------------------------------------------
-- One request
-----------------------------------------------------------------------------------------

/-- Interning answers with the place of the constant, or with the next one. -/
theorem intern_id (builder : PoolBuilder) (constant : Constant)
    : (builder.intern constant).1 = builder.constants.idxOf constant := by
  unfold intern
  split
  · rfl
  · next new => exact (List.idxOf_eq_length new).symm

/-- The id of a constant is its place, if it is there. -/
theorem get?_eq (builder : PoolBuilder) (constant : Constant)
    : builder.get? constant
      = if constant ∈ builder.constants then some (builder.constants.idxOf constant)
        else none := by
  have place := List.idxOf_eq_getD_idxOf? constant builder.constants
  unfold get?
  cases found : builder.constants.idxOf? constant with
  | none => rw [if_neg (List.idxOf?_eq_none_iff.mp found)]
  | some id =>
      have member : constant ∈ builder.constants :=
        List.isSome_idxOf?.mp (Option.isSome_of_eq_some found)
      rw [if_pos member, place, found, Option.getD_some]

/-- A request adds what it interns to the history. -/
theorem answer_constants {builder : PoolBuilder} {history : List Constant}
    (h : builder.constants = history.eraseDups) (request : PoolRequest)
    : (builder.answer request).2.constants
      = (history ++ request.interned?.toList).eraseDups := by
  cases request with
  | call asked =>
      have alone : [asked].filterMap PoolCall.constant? = asked.constant?.toList := by
        cases found : asked.constant? <;> simp [found]
      rw [PoolRequest.interned?, ← alone]
      exact callAll_constants h [asked]
  | get constant => simpa [answer, PoolRequest.interned?] using h

-----------------------------------------------------------------------------------------
-- Requests one after the other
-----------------------------------------------------------------------------------------

theorem after_concat (requests : List PoolRequest) (request : PoolRequest)
    : after (requests ++ [request]) = ((after requests).answer request).2 := by
  simp [after]

theorem interned_append (earlier later : List PoolRequest)
    : interned (earlier ++ later) = interned earlier ++ interned later :=
  List.filterMap_append

/-- The builder holds what was interned, each constant once and in the order in which they first
came, by induction on the requests from the last one.
-/
theorem after_constants (requests : List PoolRequest)
    : (after requests).constants = (interned requests).eraseDups := by
  induction requests using List.reverseRecOn with
  | nil => rfl
  | append_singleton requests request ih =>
      rw [after_concat, answer_constants ih, interned_append]
      cases found : request.interned? <;> simp [interned, found]

theorem mem_after {requests : List PoolRequest} {constant : Constant}
    : constant ∈ (after requests).constants ↔ constant ∈ interned requests := by
  rw [after_constants, List.mem_eraseDups]

theorem size_after (requests : List PoolRequest)
    : (after requests).size = (interned requests).toFinset.card := by
  rw [size, after_constants, length_eraseDups]

theorem get?_after (requests : List PoolRequest) (constant : Constant)
    : (after requests).get? constant
      = if constant ∈ interned requests then some (distinctBefore (interned requests) constant)
        else none := by
  simp only [get?_eq, mem_after]
  rw [after_constants, idxOf_eraseDups]

/-- What is interned later changes no place. -/
theorem after_prefix (earlier later : List PoolRequest)
    : (after earlier).constants <+: (after (earlier ++ later)).constants := by
  rw [after_constants, after_constants, interned_append, List.eraseDups_append]
  exact List.prefix_append _ _

/-- An id is of one constant only. -/
theorem get?_injective {builder : PoolBuilder} {one other : Constant} {id : Nat}
    (left : builder.get? one = some id) (right : builder.get? other = some id)
    : one = other := by
  rw [get?_eq, Option.ite_none_right_eq_some] at left right
  exact (List.idxOf_inj left.1).mp (Option.some.inj (left.2.trans right.2.symm))

/-- The ids are the numbers below that of the constants. -/
theorem lt_size_iff {builder : PoolBuilder} {id : Nat}
    : id < builder.size ↔ ∃ constant, builder.get? constant = some id := by
  constructor
  · intro inside
    refine ⟨builder.constants[id], ?_⟩
    rw [get?_eq, if_pos (List.getElem_mem inside), builder.nodup.idxOf_getElem id inside]
  · rintro ⟨constant, found⟩
    rw [get?_eq, Option.ite_none_right_eq_some] at found
    obtain ⟨member, same⟩ := found
    cases same
    exact List.idxOf_lt_length_of_mem member

/-- A constant that is interned gets the number of those before it, and this is below that of all.
-/
theorem intern_after (earlier later : List PoolRequest) (constant : Constant)
    : ((after earlier).intern constant).1
        = distinctBefore (interned (earlier ++ .call (.intern constant) :: later)) constant
      ∧ ((after earlier).intern constant).1
        < (interned (earlier ++ .call (.intern constant) :: later)).toFinset.card := by
  have history : interned (earlier ++ .call (.intern constant) :: later)
      = interned earlier ++ constant :: interned later :=
    interned_append earlier _
  have id : ((after earlier).intern constant).1
      = distinctBefore (interned (earlier ++ .call (.intern constant) :: later)) constant := by
    rw [intern_id, after_constants, idxOf_eraseDups, history, distinctBefore_append]
  refine ⟨id, ?_⟩
  rw [id, ← idxOf_eraseDups, ← length_eraseDups]
  apply List.idxOf_lt_length_of_mem
  simp [history]

/-- An id stays with its constant whatever comes later. -/
theorem get?_after_append {earlier : List PoolRequest} {constant : Constant} {id : Nat}
    (found : (after earlier).get? constant = some id) (later : List PoolRequest)
    : (after (earlier ++ later)).get? constant = some id := by
  rw [get?_eq, Option.ite_none_right_eq_some] at found ⊢
  have grown := after_prefix earlier later
  exact ⟨grown.subset found.1, (grown.idxOf_eq_of_mem found.1) ▸ found.2⟩

/-- Ids are dense and stable. Whatever is asked of a new builder, of no more constants than can be
counted, interning a constant answers with the number of distinct constants before it first came,
and this has 32 bits. An id that a constant has at some time it has ever after, and it has one
exactly when it was interned. Of typed values the known ones are interned, and the others change
nothing. The builder holds as many constants as were interned, and each of the numbers below is the
id of one of them; no integer has the id of a string.
-/
theorem ids_dense_and_stable (requests : List PoolRequest)
    (few : (interned requests).toFinset.card ≤ maxConstants)
    : (∀ earlier constant later,
        requests = earlier ++ .call (.intern constant) :: later
        → ((after earlier).intern constant).1 = distinctBefore (interned requests) constant
          ∧ ((after earlier).intern constant).1 < maxConstants)
      ∧ (∀ earlier later constant id,
          requests = earlier ++ later
          → (after earlier).get? constant = some id
          → (after requests).get? constant = some id)
      ∧ (∀ constant,
          (after requests).get? constant
            = if constant ∈ interned requests
              then some (distinctBefore (interned requests) constant) else none)
      ∧ (∀ value constant,
          value.constant? = some constant
          → (after requests).internValue value
            = (some ((after requests).intern constant).1, ((after requests).intern constant).2))
      ∧ (∀ category,
          (after requests).internValue (.unknown category) = (none, after requests))
      ∧ (after requests).size = (interned requests).toFinset.card
      ∧ (∀ id, id < (after requests).size ↔ ∃ constant, (after requests).get? constant = some id)
      ∧ ∀ value text id,
          (after requests).get? (.int value) = some id
          → (after requests).get? (.str text) ≠ some id := by
  refine ⟨?_, ?_, get?_after requests, ?_, ?_, size_after requests, fun _ => lt_size_iff, ?_⟩
  · rintro earlier constant later rfl
    obtain ⟨id, bound⟩ := intern_after earlier later constant
    exact ⟨id, Nat.lt_of_lt_of_le bound few⟩
  · rintro earlier later constant id rfl found
    exact get?_after_append found later
  · intro value constant known
    rw [internValue, known]
  · intro category
    rfl
  · intro value text id left right
    exact Constant.noConfusion (get?_injective left right)

/-- An integer, a question, an unknown value, a string with the same digit, and both of them again.
-/
theorem ids_dense_and_stable_of_six
    : ∃ requests : List PoolRequest,
        requests
          = [.call (.intern (.int 7)), .get (.str "7"), .call (.internValue (.unknown .integral)),
              .call (.intern (.str "7")), .call (.internValue (.known (.int 7))),
              .call (.intern (.str "7"))]
        ∧ (interned requests).toFinset.card ≤ maxConstants
        ∧ ((after (requests.take 5)).intern (.str "7")).1 = 1
        ∧ (after (requests.take 2)).get? (.int 7) = some 0
        ∧ (after requests).get? (.int 7) = some 0
        ∧ (after requests).size = 2 := by
  refine ⟨_, rfl, by decide, ?_⟩
  obtain ⟨ids, stable, _, _, _, size, _⟩ := ids_dense_and_stable
    [.call (.intern (.int 7)), .get (.str "7"), .call (.internValue (.unknown .integral)),
      .call (.intern (.str "7")), .call (.internValue (.known (.int 7))),
      .call (.intern (.str "7"))]
    (by decide)
  have early : (after [.call (.intern (.int 7)), .get (.str "7")]).get? (.int 7) = some 0 := by
    decide
  exact ⟨(ids _ (.str "7") [] rfl).1.trans (by decide), early, stable _ _ _ _ rfl early,
    size.trans (by decide)⟩

end PoolBuilder

end VmToolchain
