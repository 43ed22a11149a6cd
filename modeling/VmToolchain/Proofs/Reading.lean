import VmToolchain.Proofs.Bytes
import VmToolchain.Proofs.Results

/-! Readers of bytes, seen through what they ask for. A reader that sees bytes only by asking for
the next so many stays among the bytes it was started on, and where it misses some it says how
many are left. The loops that use such readers are taken apart into rounds.
-/

namespace VmToolchain

-----------------------------------------------------------------------------------------
-- Positions among some bytes
-----------------------------------------------------------------------------------------

/-- The cursor stands in front of one of the bytes or behind the last, and what is left for it are
the bytes from there on.
-/
structure Cursor.Within (cursor : Cursor) (bytes : List UInt8) : Prop where
  offset_le : cursor.offset ≤ bytes.length
  rest_eq : cursor.rest = bytes.drop cursor.offset

/-- What is available reaches from the offset to the end of the bytes, and it is too little. -/
structure Shortfall.AtEndOf (missing : Shortfall) (bytes : List UInt8) : Prop where
  ends : missing.offset + missing.available = bytes.length
  fewer : missing.available < missing.needed

namespace Cursor

variable {bytes taken : List UInt8} {cursor next : Cursor} {count : Nat}

theorem within_start (bytes : List UInt8) : (start bytes).Within bytes :=
  ⟨Nat.zero_le _, rfl⟩

namespace Within

theorem length_rest (within : cursor.Within bytes)
    : cursor.offset + cursor.rest.length = bytes.length := by
  have inside := within.offset_le
  rw [within.rest_eq, List.length_drop]
  omega

/-- The bytes that are taken stand at the offset, and none of them is behind the end. -/
theorem take_ok (within : cursor.Within bytes) (h : cursor.take count = .ok (taken, next))
    : next.Within bytes
      ∧ next.offset = cursor.offset + count
      ∧ taken = (bytes.drop cursor.offset).take count := by
  obtain ⟨size, whole, moved⟩ := take_eq_ok_iff.mp h
  have ends := within.length_rest
  rw [whole, List.length_append, size] at ends
  rw [within.rest_eq] at whole
  refine ⟨⟨by omega, ?_⟩, moved, ?_⟩
  · rw [moved, ← List.drop_drop, whole, List.drop_left' size]
  · rw [whole, List.take_left' size]

theorem take_error {missing : Shortfall} (within : cursor.Within bytes)
    (h : cursor.take count = .error missing)
    : missing.AtEndOf bytes := by
  obtain ⟨few, rfl⟩ := take_eq_error_iff.mp h
  exact ⟨within.length_rest, few⟩

end Within

end Cursor

-----------------------------------------------------------------------------------------
-- Readers that ask for bytes
-----------------------------------------------------------------------------------------

/-- A reader that sees bytes only by asking for the next so many. It is given them with their
offset, and goes on.
-/
inductive ByteReader (α : Type) where
  | done (value : α)
  | ask (count : Nat) (next : (offset : Nat) → (taken : List UInt8) → ByteReader α)

/-- A request for bytes: where a reader stands, and how many it asks for. -/
structure ByteRequest where
  cursor : Cursor
  count : Nat

/-- The bytes that a reader sees by a request, each with its place. Where too few are left, it sees
none of them.
-/
def ByteRequest.seen (request : ByteRequest) : List (UInt8 × Nat) :=
  match request.cursor.take request.count with
  | .error _ => []
  | .ok (taken, _) => taken.zipIdx request.cursor.offset

theorem ByteRequest.getElem?_of_mem_seen {request : ByteRequest} {bytes : List UInt8}
    (within : request.cursor.Within bytes) {byte : UInt8} {place : Nat}
    (member : (byte, place) ∈ request.seen)
    : bytes[place]? = some byte := by
  unfold seen at member
  split at member
  · contradiction
  · next taken next read =>
      obtain ⟨_, _, rfl⟩ := within.take_ok read
      obtain ⟨behind, found⟩ := List.mk_mem_zipIdx_iff_le_and_getElem?_sub.mp member
      rw [List.getElem?_take, List.getElem?_drop, Nat.add_sub_cancel' behind] at found
      split at found
      · exact found
      · contradiction

namespace ByteReader

variable {α ε : Type} {bytes : List UInt8} {cursor next : Cursor}

/-- The reader's value and where it stops, or the first request that cannot be met. -/
def run : ByteReader α → Cursor → Except Shortfall (α × Cursor)
  | .done value, cursor => .ok (value, cursor)
  | .ask count next, cursor =>
      cursor.take count >>= fun given => (next cursor.offset given.1).run given.2

/-- All requests that the reader makes, up to the first that cannot be met. -/
def requests : ByteReader α → Cursor → List ByteRequest
  | .done _, _ => []
  | .ask count next, cursor =>
      ⟨cursor, count⟩
        :: (match cursor.take count with
            | .error _ => []
            | .ok (taken, behind) => (next cursor.offset taken).requests behind)

/-- The result of a reader that may refuse what it was given. -/
def attempt (short : Shortfall → ε) (reader : ByteReader (Except ε α)) (cursor : Cursor)
    : Except ε (α × Cursor) :=
  (reader.run cursor).mapError short >>= fun read => (·, read.2) <$> read.1

theorem attempt_done (short : Shortfall → ε) (result : Except ε α) (cursor : Cursor)
    : (done result).attempt short cursor = (·, cursor) <$> result := rfl

theorem attempt_ask (short : Shortfall → ε) (count : Nat)
    (following : Nat → List UInt8 → ByteReader (Except ε α)) (cursor : Cursor)
    : (ask count following).attempt short cursor
      = (cursor.take count).mapError short >>= fun given =>
          (following cursor.offset given.1).attempt short given.2 := by
  rw [attempt, run]
  cases cursor.take count <;> rfl

/-- Every value that the reader can make of the bytes from this offset on has the property, together
with the offset where it stops.
-/
def Ensures (bytes : List UInt8) (property : α → Nat → Prop) : ByteReader α → Nat → Prop
  | .done value, offset => property value offset
  | .ask count next, offset =>
      offset + count ≤ bytes.length
      → (next offset ((bytes.drop offset).take count)).Ensures bytes property (offset + count)

/-- A reader asks only for bytes from positions among those it was started on, by induction on its
requests.
-/
theorem within_of_mem_requests {reader : ByteReader α} (within : cursor.Within bytes)
    {request : ByteRequest} (member : request ∈ reader.requests cursor)
    : request.cursor.Within bytes := by
  induction reader generalizing cursor with
  | done value => contradiction
  | ask count next ih =>
      rw [requests] at member
      rcases List.mem_cons.mp member with rfl | later
      · exact within
      split at later
      · contradiction
      · next taken behind read => exact ih _ _ (within.take_ok read).1 later

/-- Where a reader gives a value, it stops among the bytes, and what it ensures holds there. -/
theorem run_ok {reader : ByteReader α} {property : α → Nat → Prop} {value : α}
    (within : cursor.Within bytes) (ensured : reader.Ensures bytes property cursor.offset)
    (h : reader.run cursor = .ok (value, next))
    : next.Within bytes ∧ property value next.offset := by
  induction reader generalizing cursor with
  | done result =>
      cases h
      exact ⟨within, ensured⟩
  | ask count following ih =>
      obtain ⟨⟨taken, behind⟩, read, h⟩ := bind_eq_ok.mp h
      obtain ⟨inside, moved, rfl⟩ := within.take_ok read
      have there := inside.offset_le
      rw [moved] at there
      refine ih _ _ inside ?_ h
      rw [moved]
      exact ensured there

/-- A request that cannot be met is one for more than is left. -/
theorem run_error {reader : ByteReader α} {missing : Shortfall} (within : cursor.Within bytes)
    (h : reader.run cursor = .error missing)
    : missing.AtEndOf bytes := by
  induction reader generalizing cursor with
  | done value => contradiction
  | ask count following ih =>
      rcases bind_eq_error.mp h with short | ⟨⟨taken, behind⟩, read, h⟩
      · exact within.take_error short
      · exact ih _ _ (within.take_ok read).1 h

/-- A value that is not refused comes from a run. -/
theorem attempt_ok {short : Shortfall → ε} {reader : ByteReader (Except ε α)}
    {property : Except ε α → Nat → Prop} {value : α} (within : cursor.Within bytes)
    (ensured : reader.Ensures bytes property cursor.offset)
    (h : reader.attempt short cursor = .ok (value, next))
    : next.Within bytes ∧ property (.ok value) next.offset := by
  obtain ⟨⟨result, behind⟩, ran, h⟩ := bind_eq_ok.mp h
  obtain ⟨given, rfl, same⟩ := map_eq_ok.mp h
  cases same
  exact run_ok within ensured (mapError_eq_ok.mp ran)

/-- An error is a request that cannot be met, or one that the reader raises itself. -/
theorem attempt_error {short : Shortfall → ε} {reader : ByteReader (Except ε α)}
    {property : Except ε α → Nat → Prop} {error : ε} (within : cursor.Within bytes)
    (ensured : reader.Ensures bytes property cursor.offset)
    (h : reader.attempt short cursor = .error error)
    : (∃ missing : Shortfall, error = short missing ∧ missing.AtEndOf bytes)
      ∨ ∃ offset, property (.error error) offset := by
  rcases bind_eq_error.mp h with failed | ⟨⟨result, behind⟩, ran, h⟩
  · cases ran : reader.run cursor with
    | error missing =>
        rw [ran] at failed
        cases failed
        exact .inl ⟨missing, rfl, run_error within ran⟩
    | ok read =>
        rw [ran] at failed
        contradiction
  · cases map_eq_error.mp h
    exact .inr ⟨_, (run_ok within ensured (mapError_eq_ok.mp ran)).2⟩

end ByteReader

-----------------------------------------------------------------------------------------
-- Loops as rounds
-----------------------------------------------------------------------------------------

section Rounds

variable {σ ω : Type} {round : σ → ω ⊕ σ}

/-- The loop stands in this state after so many rounds. A round ends the loop with an outcome, or
leads to the state in which the next one starts.
-/
inductive StandsAfter (round : σ → ω ⊕ σ) (start : σ) : Nat → σ → Prop
  | start : StandsAfter round start 0 start
  | round {rounds : Nat} {state next : σ} (reached : StandsAfter round start rounds state)
    (goesOn : round state = .inr next)
    : StandsAfter round start (rounds + 1) next

namespace StandsAfter

/-- A round before all others. -/
theorem after_first {start second last : σ} {rounds : Nat} (first : round start = .inr second)
    (later : StandsAfter round second rounds last)
    : StandsAfter round start (rounds + 1) last := by
  induction later with
  | start => exact .round .start first
  | round _ goesOn ih => exact .round ih goesOn

/-- A result that is handed on from round to round is the same wherever the loop stands. -/
theorem result_eq {result : σ → ω} (unfolds : ∀ state, result state = (round state).elim id result)
    {start state : σ} {rounds : Nat} (reached : StandsAfter round start rounds state)
    : result state = result start := by
  induction reached with
  | start => rfl
  | @round rounds state next _ goesOn ih =>
      rw [← ih, unfolds state, goesOn]
      rfl

/-- A loop of which each round leaves less to do comes to an end, and there it has its result. The
induction is on what is left to do.
-/
theorem exists_end {result : σ → ω} {left : σ → Nat}
    (unfolds : ∀ state, result state = (round state).elim id result)
    (less : ∀ state next, round state = .inr next → left next < left state) (start : σ)
    : ∃ rounds last, StandsAfter round start rounds last ∧ round last = .inl (result start) := by
  induction size : left start using Nat.strongRecOn generalizing start with
  | ind size ih =>
      have unfolded := unfolds start
      cases first : round start with
      | inl outcome =>
          rw [first] at unfolded
          exact ⟨0, start, .start, by rw [first, unfolded]; rfl⟩
      | inr second =>
          rw [first] at unfolded
          obtain ⟨rounds, last, reached, ends⟩ :=
            ih (left second) (size ▸ less start second first) second rfl
          exact ⟨rounds + 1, last, after_first first reached, ends.trans (by rw [unfolded]; rfl)⟩

end StandsAfter

end Rounds

end VmToolchain
