import VmToolchain.Proofs.ConstantPool.Acceptance
import VmToolchain.Proofs.ConstantPool.Tightness
import VmToolchain.Proofs.Reading

/-! The reader of pools stays inside of its payload, whatever count and lengths are announced
there. Each constant takes at least five bytes, so that the number of constants is bounded by what
is there, and every error is about a place of the payload.
-/

namespace VmToolchain

/-- The error is about a place that the payload has. Missing bytes are missing at its end, an
unknown tag stands where it is said to, a text starts in the payload or at its end, and bytes that
are left over are some of its own.
-/
def PoolError.LocatedIn (payload : List UInt8) : PoolError → Prop
  | .truncated missing => missing.AtEndOf payload
  | .unknownTag tag offset => payload[offset]? = some tag
  | .invalidUtf8 offset => offset ≤ payload.length
  | .trailingBytes count => 0 < count ∧ count ≤ payload.length

-----------------------------------------------------------------------------------------
-- One constant
-----------------------------------------------------------------------------------------

namespace Constant

/-- The reader of a constant: it asks for the tag, and then for what the tag announces. -/
def reader : ByteReader (Except PoolError Constant) :=
  .ask 1 fun start tag =>
    let tag := (ofBigEndian tag).toUInt8
    if tag = intTag then
      .ask 8 fun _ bytes => .done (.ok (.int (ofBigEndian bytes).toUInt64.toInt64))
    else if tag = strTag then
      .ask 4 fun _ length =>
        .ask (ofBigEndian length) fun start bytes =>
          .done
            (match String.fromUTF8? bytes.toByteArray with
            | some value => .ok (.str value)
            | none => .error (.invalidUtf8 start))
    else .done (.error (.unknownTag tag start))

/-- Reading a constant looks at bytes only as this reader does. -/
theorem read_eq_attempt (cursor : Cursor) : read cursor = reader.attempt .truncated cursor := by
  rw [reader, ByteReader.attempt_ask]
  refine congrArg _ (funext fun ⟨tag, body⟩ => ?_)
  dsimp only
  split
  · rw [ByteReader.attempt_ask]
    exact congrArg _ (funext fun _ => rfl)
  split
  · rw [ByteReader.attempt_ask]
    refine congrArg _ (funext fun ⟨length, text⟩ => ?_)
    dsimp only
    rw [ByteReader.attempt_ask]
    refine congrArg _ (funext fun ⟨bytes, next⟩ => ?_)
    dsimp only
    rw [ByteReader.attempt_done]
    cases String.fromUTF8? bytes.toByteArray <;> rfl
  · rfl

/-- The tag that is read is the byte at the offset. -/
theorem getElem?_eq_tag {payload : List UInt8} {offset : Nat} (there : offset + 1 ≤ payload.length)
    : payload[offset]? = some (ofBigEndian ((payload.drop offset).take 1)).toUInt8 := by
  rw [List.drop_eq_getElem_cons there, List.take_succ_cons, List.take_zero,
    List.getElem?_eq_getElem there]
  simp [ofBigEndian]

/-- A constant takes at least five bytes, and what the reader itself refuses is located. -/
theorem reader_ensures (payload : List UInt8) (offset : Nat)
    : reader.Ensures payload
        (fun result behind =>
          match result with
          | .ok _ => offset + 5 ≤ behind
          | .error error => error.LocatedIn payload)
        offset := by
  intro there
  dsimp only
  split
  · intro value
    change offset + 5 ≤ offset + 1 + 8
    omega
  split
  · intro length text
    dsimp only [ByteReader.Ensures]
    cases String.fromUTF8? _ with
    | none =>
        -- The text starts behind the tag and the length, and all of it is there.
        change offset + 1 + 4 ≤ payload.length
        exact Nat.le_of_add_right_le text
    | some value =>
        change offset + 5 ≤ offset + 1 + 4 + _
        omega
  · exact getElem?_eq_tag there

theorem read_within {payload : List UInt8} {cursor next : Cursor} {constant : Constant}
    (within : cursor.Within payload) (h : read cursor = .ok (constant, next))
    : next.Within payload ∧ cursor.offset + 5 ≤ next.offset := by
  rw [read_eq_attempt] at h
  exact ByteReader.attempt_ok within (reader_ensures payload cursor.offset) h

theorem read_error_located {payload : List UInt8} {cursor : Cursor} {error : PoolError}
    (within : cursor.Within payload) (h : read cursor = .error error)
    : error.LocatedIn payload := by
  rw [read_eq_attempt] at h
  rcases ByteReader.attempt_error within (reader_ensures payload cursor.offset) h with
    ⟨missing, rfl, atEnd⟩ | ⟨_, located⟩
  · exact atEnd
  · exact located

end Constant

-----------------------------------------------------------------------------------------
-- The loop
-----------------------------------------------------------------------------------------

namespace ConstantPool

/-- Where the reader of a pool stands: in front of the count, or behind some constants of those that
the count announced.
-/
inductive DecodeState where
  | counting (cursor : Cursor)
  | reading (announced : Nat) (constants : Array Constant) (cursor : Cursor)

namespace DecodeState

def start (payload : List UInt8) : DecodeState :=
  .counting (.start payload)

def cursor : DecodeState → Cursor
  | .counting cursor => cursor
  | .reading _ _ cursor => cursor

/-- The constants read so far. -/
def constants : DecodeState → Array Constant
  | .counting _ => #[]
  | .reading _ constants _ => constants

def announced : DecodeState → Nat
  | .counting _ => 0
  | .reading announced _ _ => announced

/-- The room that is made for constants: for as many as are announced, but not for more than the
payload can hold.
-/
def capacity (payload : List UInt8) (state : DecodeState) : Nat :=
  min state.announced (payload.length / 5)

/-- A round reads the count, or the next constant. Behind the last constant and at an error it gives
the outcome instead.
-/
def round : DecodeState → Except PoolError ConstantPool ⊕ DecodeState
  | .counting cursor =>
      match cursor.take 4 with
      | .error missing => .inl (.error (.truncated missing))
      | .ok (count, body) => .inr (.reading (ofBigEndian count) #[] body)
  | .reading announced constants cursor =>
      if constants.size < announced then
        match Constant.read cursor with
        | .error error => .inl (.error error)
        | .ok (constant, next) => .inr (.reading announced (constants.push constant) next)
      else if cursor.rest.isEmpty then .inl (.ok ⟨constants⟩)
      else .inl (.error (.trailingBytes cursor.rest.length))

/-- The requests for bytes in a round; there are none behind the last constant. -/
def requests : DecodeState → List ByteRequest
  | .counting cursor => [⟨cursor, 4⟩]
  | .reading announced constants cursor =>
      if constants.size < announced then Constant.reader.requests cursor else []

/-- The outcome when reading goes on from this state. -/
def outcome : DecodeState → Except PoolError ConstantPool
  | .counting cursor => readCounted cursor >>= ending
  | .reading announced constants cursor =>
      readConstants (announced - constants.size) constants cursor >>= ending
where
  ending (read : Array Constant × Cursor) : Except PoolError ConstantPool :=
    if read.2.rest.isEmpty then .ok ⟨read.1⟩ else .error (.trailingBytes read.2.rest.length)

theorem outcome_start (payload : List UInt8) : (start payload).outcome = decode payload :=
  (decode_eq_readCounted payload).symm

theorem outcome_eq_round (state : DecodeState) : state.outcome = state.round.elim id outcome := by
  cases state with
  | counting cursor =>
      rw [outcome, readCounted, round]
      cases cursor.take 4 <;> rfl
  | reading announced constants cursor =>
      rw [outcome, round]
      split
      · next more =>
          have left : announced - constants.size = announced - (constants.size + 1) + 1 := by omega
          rw [left, readConstants_succ]
          cases Constant.read cursor with
          | error error => rfl
          | ok read =>
              rw [← Array.size_push read.1]
              rfl
      · next all =>
          rw [Nat.sub_eq_zero_of_le (Nat.not_lt.mp all)]
          change outcome.ending (constants, cursor) = _
          rw [outcome.ending]
          split <;> rfl

/-- A round that goes on has read the count, or a constant of those announced. -/
theorem round_goes_on {state next : DecodeState} (goesOn : state.round = .inr next)
    : (∃ cursor count body,
        state = .counting cursor
        ∧ cursor.take 4 = .ok (count, body)
        ∧ next = .reading (ofBigEndian count) #[] body)
      ∨ ∃ announced constants cursor constant behind,
          state = .reading announced constants cursor
          ∧ constants.size < announced
          ∧ Constant.read cursor = .ok (constant, behind)
          ∧ next = .reading announced (constants.push constant) behind := by
  cases state with
  | counting cursor =>
      rw [round] at goesOn
      split at goesOn
      · contradiction
      · next count body read =>
          exact .inl ⟨cursor, count, body, rfl, read, (Sum.inr.inj goesOn).symm⟩
  | reading announced constants cursor =>
      rw [round] at goesOn
      split at goesOn
      · next more =>
          split at goesOn
          · contradiction
          · next constant behind read =>
              exact .inr ⟨announced, constants, cursor, constant, behind, rfl, more, read,
                (Sum.inr.inj goesOn).symm⟩
      · split at goesOn <;> contradiction

/-- What holds wherever the reader stands: it stands among the payload, has passed five bytes for
each constant, and has no more constants than were announced.
-/
structure Inside (payload : List UInt8) (state : DecodeState) : Prop where
  within : state.cursor.Within payload
  passed : 5 * state.constants.size ≤ state.cursor.offset
  room : state.constants.size ≤ state.announced

theorem inside_start (payload : List UInt8) : (start payload).Inside payload :=
  ⟨Cursor.within_start payload, Nat.zero_le _, Nat.zero_le _⟩

/-- A round that goes on stays inside: a constant that is read takes five bytes or more, and it is
one of those announced.
-/
theorem Inside.of_round {payload : List UInt8} {state next : DecodeState}
    (inside : state.Inside payload) (goesOn : state.round = .inr next)
    : next.Inside payload := by
  obtain ⟨within, passed, room⟩ := inside
  rcases round_goes_on goesOn with
    ⟨cursor, count, body, rfl, read, rfl⟩
    | ⟨announced, constants, cursor, constant, behind, rfl, more, read, rfl⟩
  · exact ⟨(within.take_ok read).1, Nat.zero_le _, Nat.zero_le _⟩
  · obtain ⟨after, further⟩ := Constant.read_within within read
    refine ⟨after, ?_, ?_⟩
    · calc 5 * (constants.push constant).size
        _ = 5 * constants.size + 5 := by rw [Array.size_push, Nat.mul_succ]
        _ ≤ cursor.offset + 5 := Nat.add_le_add_right passed 5
        _ ≤ behind.offset := further
    · calc (constants.push constant).size
        _ = constants.size + 1 := Array.size_push constant
        _ ≤ announced := more

/-- Wherever the reader stands it is inside, by induction on the rounds. -/
theorem stands_inside {payload : List UInt8} {rounds : Nat} {state : DecodeState}
    (reached : StandsAfter round (start payload) rounds state)
    : state.Inside payload := by
  induction reached with
  | start => exact inside_start payload
  | round _ goesOn ih => exact ih.of_round goesOn

theorem Inside.error_located {payload : List UInt8} {state : DecodeState} {error : PoolError}
    (inside : state.Inside payload) (ended : state.round = .inl (.error error))
    : error.LocatedIn payload := by
  have within := inside.within
  cases state with
  | counting cursor =>
      rw [round] at ended
      split at ended
      · next missing short =>
          cases ended
          exact within.take_error short
      · contradiction
  | reading announced constants cursor =>
      rw [round] at ended
      split at ended
      · split at ended
        · next failed =>
            cases ended
            exact Constant.read_error_located within failed
        · contradiction
      split at ended
      · cases ended
      · next more =>
          cases ended
          have ends : cursor.offset + cursor.rest.length = payload.length := within.length_rest
          have some : 0 < cursor.rest.length := by simpa [List.length_pos_iff] using more
          exact ⟨some, Nat.le.intro (Nat.add_comm _ _ ▸ ends)⟩

/-- All requests of a round stand among the payload. -/
theorem Inside.within_of_mem_requests {payload : List UInt8} {state : DecodeState}
    (inside : state.Inside payload) {request : ByteRequest} (member : request ∈ state.requests)
    : request.cursor.Within payload := by
  have within := inside.within
  cases state with
  | counting cursor =>
      cases List.mem_singleton.mp member
      exact within
  | reading announced constants cursor =>
      rw [requests] at member
      split at member
      · exact ByteReader.within_of_mem_requests within member
      · contradiction

/-- A round that goes on leaves less to read, so the reader comes to an end. -/
theorem exists_end (payload : List UInt8)
    : ∃ rounds last,
        StandsAfter round (start payload) rounds last ∧ last.round = .inl (decode payload) := by
  have less (state next : DecodeState) (goesOn : state.round = .inr next)
      : next.cursor.rest.length < state.cursor.rest.length := by
    rcases round_goes_on goesOn with
      ⟨cursor, count, body, rfl, read, rfl⟩
      | ⟨announced, constants, cursor, constant, behind, rfl, more, read, rfl⟩
    · have shorter := Cursor.take_length read
      change body.rest.length < cursor.rest.length
      omega
    · have laid := (Constant.read_eq_ok read).2
      have positive := constant.encodedSize_pos
      change behind.rest.length < cursor.rest.length
      rw [laid, List.length_append, constant.length_encode]
      omega
  rw [← outcome_start]
  exact StandsAfter.exists_end outcome_eq_round less (start payload)

end DecodeState

/-- The reader of pools never leaves the payload, whatever the payload is. Bytes of constants are
looked at only as their reader does. Wherever the reader stands, from there on it gives the
outcome of the whole; it stands among the payload, and so does each request of the next round, so
that what is left can be told by a difference. The number of constants read so far is at most a
fifth of the number of bytes, and they fit into the room that is made for them, however many are
announced. The reader comes to an end, and each error is about a place that the payload has.
-/
theorem decode_stays_in_payload (payload : List UInt8)
    : (∀ cursor, Constant.read cursor = Constant.reader.attempt .truncated cursor)
      ∧ (∀ rounds state,
          StandsAfter DecodeState.round (.start payload) rounds state
          → state.outcome = decode payload
            ∧ state.cursor.Within payload
            ∧ (∀ request ∈ state.requests, request.cursor.Within payload)
            ∧ state.constants.size ≤ payload.length / 5
            ∧ state.constants.size ≤ state.capacity payload)
      ∧ (∃ rounds last,
          StandsAfter DecodeState.round (.start payload) rounds last
          ∧ last.round = .inl (decode payload))
      ∧ ∀ error, decode payload = .error error → error.LocatedIn payload := by
  obtain ⟨rounds, last, reached, ended⟩ := DecodeState.exists_end payload
  refine ⟨Constant.read_eq_attempt, ?_, ⟨rounds, last, reached, ended⟩, ?_⟩
  · intro rounds state reached
    have inside := DecodeState.stands_inside reached
    have same := reached.result_eq DecodeState.outcome_eq_round
    have few : state.constants.size ≤ payload.length / 5 := by
      have passed := inside.passed
      have within := inside.within.offset_le
      omega
    exact ⟨same.trans (DecodeState.outcome_start payload), inside.within,
      fun request member => inside.within_of_mem_requests member, few,
      Nat.le_min.mpr ⟨inside.room, few⟩⟩
  · intro error failed
    rw [failed] at ended
    exact (DecodeState.stands_inside reached).error_located ended

/-- The largest count is announced. There is one empty text, and behind it a byte that is no tag. -/
theorem decode_stays_in_payload_of_large_count
    : StandsAfter DecodeState.round (.start [255, 255, 255, 255, 1, 0, 0, 0, 0, 7]) 2
          (.reading 4294967295 #[.str ""] ⟨9, [7]⟩)
      ∧ (∀ request ∈ DecodeState.requests (.reading 4294967295 #[.str ""] ⟨9, [7]⟩),
          request.cursor.Within [255, 255, 255, 255, 1, 0, 0, 0, 0, 7])
      ∧ 1 ≤ min 4294967295 (10 / 5)
      ∧ decode [255, 255, 255, 255, 1, 0, 0, 0, 0, 7] = .error (.unknownTag 7 9)
      ∧ ([255, 255, 255, 255, 1, 0, 0, 0, 0, 7] : List UInt8)[9]? = some 7 := by
  have counted : (DecodeState.start [255, 255, 255, 255, 1, 0, 0, 0, 0, 7]).round
      = .inr (.reading 4294967295 #[] ⟨4, [1, 0, 0, 0, 0, 7]⟩) := rfl
  have text : (DecodeState.reading 4294967295 #[] ⟨4, [1, 0, 0, 0, 0, 7]⟩).round
      = .inr (.reading 4294967295 #[.str ""] ⟨9, [7]⟩) := by
    have fits : Constant.Fits (.str "") := Constant.fits_of_encodedSize_le (by decide)
    have read : Constant.read ⟨4, [1, 0, 0, 0, 0, 7]⟩ = .ok (.str "", ⟨9, [7]⟩) :=
      Constant.read_encode fits 4 [7]
    rw [DecodeState.round, if_pos (by decide), read]
    rfl
  have ended : (DecodeState.reading 4294967295 #[.str ""] ⟨9, [7]⟩).round
      = .inl (.error (.unknownTag 7 9)) := rfl
  have reached := StandsAfter.round (.round .start counted) text
  obtain ⟨_, states, _, located⟩ := decode_stays_in_payload [255, 255, 255, 255, 1, 0, 0, 0, 0, 7]
  obtain ⟨same, _, requests, _, room⟩ := states _ _ reached
  have failed : decode [255, 255, 255, 255, 1, 0, 0, 0, 0, 7] = .error (.unknownTag 7 9) := by
    rw [← same, DecodeState.outcome_eq_round, ended]
    rfl
  exact ⟨reached, requests, room, failed, located _ failed⟩

end ConstantPool

end VmToolchain
