import VmToolchain.Proofs.ModuleFile.Frames
import VmToolchain.Proofs.Reading

/-! The loop that reads a module file, round by round. Whatever the bytes are, it looks at nothing
outside of them, and every round that goes on has passed at least the lead of a chunk, so that the
number of chunks is bounded by the number of bytes.
-/

namespace VmToolchain.ModuleFile

-----------------------------------------------------------------------------------------
-- One chunk
-----------------------------------------------------------------------------------------

/-- The reader of a chunk: it asks for the lead and, unless the lead is refused, for the payload. -/
def chunkReader (unknown : UnknownChunks)
    : ByteReader (Except ModuleError (Option ChunkKind × List UInt8)) :=
  .ask Chunk.leadSize fun offset lead =>
    let id := signed32 (ofBigEndian (lead.take 4))
    let length := signed32 (ofBigEndian (lead.drop 4))
    let kind := ChunkKind.ofId? id
    if kind = none ∧ unknown = .refuse then .done (.error (.unknownChunk id))
    else if length < 0 then .done (.error (.negativeLength offset length))
    else .ask length.toNat fun _ payload => .done (.ok (kind, payload))

/-- Reading a chunk looks at bytes only as this reader does. -/
theorem readChunk_eq_attempt (unknown : UnknownChunks) (cursor : Cursor)
    : readChunk unknown cursor
      = (fun read => (read.1.1, read.1.2, read.2))
          <$> (chunkReader unknown).attempt .truncated cursor := by
  rw [readChunk, chunkReader, ByteReader.attempt_ask]
  cases cursor.take Chunk.leadSize with
  | error missing => rfl
  | ok lead =>
      dsimp only [bind, Except.bind, Except.mapError]
      split
      · rfl
      split
      · rfl
      rw [ByteReader.attempt_ask]
      cases lead.2.take (signed32 (ofBigEndian (lead.1.drop 4))).toNat <;> rfl

/-- A chunk that is read ends at least a lead further on, and the reader itself never reports that
bytes are missing.
-/
theorem chunkReader_ensures (unknown : UnknownChunks) (bytes : List UInt8) (offset : Nat)
    : (chunkReader unknown).Ensures bytes
        (fun result behind =>
          match result with
          | .ok _ => offset + Chunk.leadSize ≤ behind
          | .error error => ∀ missing, error ≠ .truncated missing)
        offset := by
  intro lead
  dsimp only
  split
  · intro missing
    simp
  split
  · intro missing
    simp
  · intro payload
    exact Nat.le_add_right _ _

theorem readChunk_within {unknown : UnknownChunks} {bytes payload : List UInt8}
    {cursor next : Cursor} {kind? : Option ChunkKind} (within : cursor.Within bytes)
    (read : readChunk unknown cursor = .ok (kind?, payload, next))
    : next.Within bytes ∧ cursor.offset + Chunk.leadSize ≤ next.offset := by
  rw [readChunk_eq_attempt] at read
  obtain ⟨⟨chunk, behind⟩, attempted, same⟩ := map_eq_ok.mp read
  cases same
  exact ByteReader.attempt_ok within (chunkReader_ensures unknown bytes cursor.offset) attempted

theorem readChunk_truncated {unknown : UnknownChunks} {bytes : List UInt8} {cursor : Cursor}
    {missing : Shortfall} (within : cursor.Within bytes)
    (failed : readChunk unknown cursor = .error (.truncated missing))
    : missing.AtEndOf bytes := by
  rw [readChunk_eq_attempt] at failed
  rcases ByteReader.attempt_error within (chunkReader_ensures unknown bytes cursor.offset)
    (map_eq_error.mp failed) with ⟨found, same, atEnd⟩ | ⟨_, never⟩
  · cases same
    exact atEnd
  · exact absurd rfl (never missing)

-----------------------------------------------------------------------------------------
-- The loop
-----------------------------------------------------------------------------------------

/-- Where the loop stands at the start of a round: the chunks kept so far, how many were passed over
as unknown, and the position.
-/
structure DecodeState where
  kept : List Chunk
  skipped : Nat
  cursor : Cursor

namespace DecodeState

def start (bytes : List UInt8) : DecodeState :=
  ⟨[], 0, .start bytes⟩

/-- A round reads a chunk and keeps it or passes over it. At the end of the bytes and at an error it
gives the outcome instead.
-/
def round (unknown : UnknownChunks) (state : DecodeState)
    : Except ModuleError ModuleFile ⊕ DecodeState :=
  if state.cursor.rest.isEmpty then .inl (.ok ⟨state.kept⟩)
  else
    match readChunk unknown state.cursor with
    | .error error => .inl (.error error)
    | .ok (none, _, next) => .inr ⟨state.kept, state.skipped + 1, next⟩
    | .ok (some kind, payload, next) =>
        match checkNext state.kept kind with
        | .error error => .inl (.error error)
        | .ok () => .inr ⟨state.kept ++ [⟨kind, payload⟩], state.skipped, next⟩

/-- The requests for bytes in a round; there are none at the end of the bytes. -/
def requests (unknown : UnknownChunks) (state : DecodeState) : List ByteRequest :=
  if state.cursor.rest.isEmpty then [] else (chunkReader unknown).requests state.cursor

/-- The outcome of the loop when it goes on from this state. -/
def outcome (unknown : UnknownChunks) (state : DecodeState) : Except ModuleError ModuleFile :=
  decodeFrom unknown state.kept state.cursor

theorem outcome_eq_round (unknown : UnknownChunks) (state : DecodeState)
    : state.outcome unknown = (state.round unknown).elim id (outcome unknown) := by
  rw [outcome, decodeFrom_eq_rounds, round]
  split
  · rfl
  · cases readChunk unknown state.cursor with
    | error error => rfl
    | ok read =>
        obtain ⟨kind?, payload, next⟩ := read
        cases kind? with
        | none => rfl
        | some kind =>
            simp only [bind, Except.bind, keep]
            cases checkNext state.kept kind <;> rfl

/-- A round that goes on has read a chunk, and this one is kept or passed over. -/
theorem round_goes_on {unknown : UnknownChunks} {state next : DecodeState}
    (goesOn : state.round unknown = .inr next)
    : (∃ kind? payload, readChunk unknown state.cursor = .ok (kind?, payload, next.cursor))
      ∧ next.kept.length + next.skipped = state.kept.length + state.skipped + 1 := by
  unfold round at goesOn
  split at goesOn
  · contradiction
  split at goesOn
  · contradiction
  · next payload behind read =>
      cases goesOn
      exact ⟨⟨none, payload, read⟩, rfl⟩
  · next kind payload behind read =>
      split at goesOn
      · contradiction
      · cases goesOn
        refine ⟨⟨some kind, payload, read⟩, ?_⟩
        dsimp only
        rw [List.length_append, List.length_singleton, Nat.add_right_comm]

/-- Bytes can only be missing when a chunk is read. -/
theorem round_truncated {unknown : UnknownChunks} {state : DecodeState} {missing : Shortfall}
    (ends : state.round unknown = .inl (.error (.truncated missing)))
    : readChunk unknown state.cursor = .error (.truncated missing) := by
  unfold round at ends
  split at ends
  · cases ends
  split at ends
  · next error failed =>
      cases ends
      exact failed
  · contradiction
  · split at ends
    · next error refused =>
        cases ends
        unfold checkNext at refused
        repeat' split at refused
        all_goals simp at refused
    · contradiction

/-- What holds when the loop stands in this state after so many rounds: it stands among the bytes,
has passed a lead in each round, and has kept or passed over one chunk in each.
-/
structure Inside (bytes : List UInt8) (rounds : Nat) (state : DecodeState) : Prop where
  within : state.cursor.Within bytes
  passed : Chunk.leadSize * rounds ≤ state.cursor.offset
  counted : state.kept.length + state.skipped = rounds

theorem inside_start (bytes : List UInt8) : (start bytes).Inside bytes 0 :=
  ⟨Cursor.within_start bytes, Nat.zero_le _, rfl⟩

theorem Inside.of_round {unknown : UnknownChunks} {bytes : List UInt8} {rounds : Nat}
    {state next : DecodeState} (inside : state.Inside bytes rounds)
    (goesOn : state.round unknown = .inr next)
    : next.Inside bytes (rounds + 1) := by
  obtain ⟨⟨kind?, payload, read⟩, oneMore⟩ := round_goes_on goesOn
  obtain ⟨behind, further⟩ := readChunk_within inside.within read
  refine ⟨behind, ?_, by rw [oneMore, inside.counted]⟩
  calc Chunk.leadSize * (rounds + 1)
    _ = Chunk.leadSize * rounds + Chunk.leadSize := Nat.mul_succ _ _
    _ ≤ state.cursor.offset + Chunk.leadSize := Nat.add_le_add_right inside.passed _
    _ ≤ next.cursor.offset := further

/-- Wherever the loop stands it is inside, by induction on the rounds. -/
theorem stands_inside {unknown : UnknownChunks} {bytes : List UInt8} {rounds : Nat}
    {state : DecodeState} (reached : StandsAfter (round unknown) (start bytes) rounds state)
    : state.Inside bytes rounds := by
  induction reached with
  | start => exact inside_start bytes
  | round _ goesOn ih => exact ih.of_round goesOn

/-- All requests of a round stand among the bytes. -/
theorem Inside.within_of_mem_requests {unknown : UnknownChunks} {bytes : List UInt8} {rounds : Nat}
    {state : DecodeState} (inside : state.Inside bytes rounds) {request : ByteRequest}
    (member : request ∈ state.requests unknown)
    : request.cursor.Within bytes := by
  unfold requests at member
  split at member
  · contradiction
  · exact ByteReader.within_of_mem_requests inside.within member

/-- A round that goes on leaves less to read, so the loop ends. -/
theorem exists_end (unknown : UnknownChunks) (bytes : List UInt8)
    : ∃ rounds last,
        StandsAfter (round unknown) (start bytes) rounds last
        ∧ last.round unknown = .inl (decode unknown bytes) := by
  have less (state next : DecodeState) (goesOn : state.round unknown = .inr next)
      : next.cursor.rest.length < state.cursor.rest.length := by
    obtain ⟨⟨kind?, payload, read⟩, _⟩ := round_goes_on goesOn
    have passed := readChunk_length read
    rw [Chunk.leadSize] at passed
    omega
  exact StandsAfter.exists_end (outcome_eq_round unknown) less (start bytes)

end DecodeState

/-- The loop makes progress inside of the bytes, whatever they are and whatever becomes of unknown
kinds. Bytes are looked at only as the reader of chunks does. Wherever the loop stands, from there
on it gives the outcome of the whole; it stands among the bytes, and so does each request of the
next round, which sees only bytes that are there. A round that goes on passes at least eight bytes
and not the end, and it keeps a chunk or passes over one. So the number of rounds is at most an
eighth of the number of bytes; the loop ends, and where bytes are missing, they are missing at the
end.
-/
theorem decode_progresses_inside (unknown : UnknownChunks) (bytes : List UInt8)
    : (∀ cursor,
        readChunk unknown cursor
        = (fun read => (read.1.1, read.1.2, read.2))
            <$> (chunkReader unknown).attempt .truncated cursor)
      ∧ (∀ rounds state,
          StandsAfter (DecodeState.round unknown) (.start bytes) rounds state
          → decodeFrom unknown state.kept state.cursor = decode unknown bytes
            ∧ state.cursor.Within bytes
            ∧ (∀ request ∈ state.requests unknown,
                request.cursor.Within bytes
                ∧ ∀ byte place, (byte, place) ∈ request.seen → bytes[place]? = some byte)
            ∧ (∀ next,
                state.round unknown = .inr next
                → state.cursor.offset + 8 ≤ next.cursor.offset
                  ∧ next.cursor.offset ≤ bytes.length)
            ∧ state.kept.length + state.skipped = rounds
            ∧ rounds ≤ bytes.length / 8)
      ∧ (∃ rounds last,
          StandsAfter (DecodeState.round unknown) (.start bytes) rounds last
          ∧ last.round unknown = .inl (decode unknown bytes))
      ∧ ∀ missing,
          decode unknown bytes = .error (.truncated missing)
          → missing.offset + missing.available = bytes.length
            ∧ missing.available < missing.needed := by
  obtain ⟨rounds, last, reached, ended⟩ := DecodeState.exists_end unknown bytes
  refine ⟨readChunk_eq_attempt unknown, ?_, ⟨rounds, last, reached, ended⟩, ?_⟩
  · intro rounds state reached
    have inside := DecodeState.stands_inside reached
    refine ⟨reached.result_eq (DecodeState.outcome_eq_round unknown), inside.within, ?_, ?_,
      inside.counted, ?_⟩
    · intro request member
      have asked := inside.within_of_mem_requests member
      exact ⟨asked, fun byte place seen => request.getElem?_of_mem_seen asked seen⟩
    · intro next goesOn
      obtain ⟨⟨kind?, payload, read⟩, _⟩ := DecodeState.round_goes_on goesOn
      obtain ⟨behind, further⟩ := readChunk_within inside.within read
      exact ⟨further, behind.offset_le⟩
    · have passed : 8 * rounds ≤ state.cursor.offset := inside.passed
      have inBytes := inside.within.offset_le
      omega
  · intro missing failed
    rw [failed] at ended
    have atEnd := readChunk_truncated (DecodeState.stands_inside reached).within
      (DecodeState.round_truncated ended)
    exact ⟨atEnd.ends, atEnd.fewer⟩

/-- An empty chunk of unknown kind is passed over, and a chunk behind it announces five bytes of
which one is there.
-/
theorem decode_progresses_inside_of_two_leads
    : StandsAfter (DecodeState.round .skip)
          (.start [0, 0, 0, 9, 0, 0, 0, 0, 0, 0, 0, 3, 0, 0, 0, 5, 7]) 1
          ⟨[], 1, ⟨8, [0, 0, 0, 3, 0, 0, 0, 5, 7]⟩⟩
      ∧ (∀ request ∈
          DecodeState.requests .skip ⟨[], 1, ⟨8, [0, 0, 0, 3, 0, 0, 0, 5, 7]⟩⟩,
          request.cursor.Within [0, 0, 0, 9, 0, 0, 0, 0, 0, 0, 0, 3, 0, 0, 0, 5, 7])
      ∧ 1 ≤ 17 / 8
      ∧ decode .skip [0, 0, 0, 9, 0, 0, 0, 0, 0, 0, 0, 3, 0, 0, 0, 5, 7]
        = .error (.truncated ⟨16, 5, 1⟩)
      ∧ 16 + 1 = 17
      ∧ 1 < 5 := by
  have passedOver
      : DecodeState.round .skip (.start [0, 0, 0, 9, 0, 0, 0, 0, 0, 0, 0, 3, 0, 0, 0, 5, 7])
        = .inr ⟨[], 1, ⟨8, [0, 0, 0, 3, 0, 0, 0, 5, 7]⟩⟩ := rfl
  have ends
      : DecodeState.round .skip ⟨[], 1, ⟨8, [0, 0, 0, 3, 0, 0, 0, 5, 7]⟩⟩
        = .inl (.error (.truncated ⟨16, 5, 1⟩)) := rfl
  have reached := StandsAfter.round .start passedOver
  obtain ⟨_, states, _, located⟩ := decode_progresses_inside .skip
    [0, 0, 0, 9, 0, 0, 0, 0, 0, 0, 0, 3, 0, 0, 0, 5, 7]
  obtain ⟨same, _, requests, _, _, few⟩ := states _ _ reached
  have failed : decode .skip [0, 0, 0, 9, 0, 0, 0, 0, 0, 0, 0, 3, 0, 0, 0, 5, 7]
      = .error (.truncated ⟨16, 5, 1⟩) := by
    rw [← same]
    exact (DecodeState.outcome_eq_round .skip _).trans (by rw [ends]; rfl)
  exact ⟨reached, fun request member => (requests request member).1, few, failed,
    located _ failed⟩

end VmToolchain.ModuleFile
