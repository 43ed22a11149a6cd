import VmToolchain.ModuleFile.Decoding
import VmToolchain.Proofs.Bytes
import VmToolchain.Proofs.Results

/-! Frames, the form in which a chunk stands in a file. Reading a chunk takes exactly one frame from
the front of the bytes, whatever stands behind it.
-/

namespace VmToolchain

namespace ChunkKind

/-- An id stands for a kind when it is the kind's own. -/
theorem ofId?_eq_some_iff {id : Int} {kind : ChunkKind} : ofId? id = some kind ↔ id = kind.id := by
  constructor
  · intro h
    have same := List.find?_some h
    exact (eq_of_beq same).symm
  · rintro rfl
    cases kind <;> rfl

theorem id_lt (kind : ChunkKind) : kind.id < 2 ^ 31 := by
  cases kind <;> decide

/-- An id of 32 bits stands for a kind when it is the kind's own; one with the sign bit stands for
none.
-/
theorem ofId?_signed32_eq_some_iff {id : Nat} {kind : ChunkKind} (bound : id < 2 ^ 32)
    : ofId? (signed32 id) = some kind ↔ id = kind.id := by
  have small := kind.id_lt
  rw [ofId?_eq_some_iff, signed32]
  split <;> omega

theorem ofId?_signed32_id (kind : ChunkKind) : ofId? (signed32 kind.id) = some kind := by
  have small := kind.id_lt
  exact (ofId?_signed32_eq_some_iff (by omega)).mpr rfl

end ChunkKind

theorem Chunk.length_encode (chunk : Chunk)
    : chunk.encode.length = leadSize + chunk.payload.length := by
  rw [encode, List.length_append, List.length_append, length_bigEndian, length_bigEndian, leadSize]

namespace ModuleFile

/-- An id of 32 bits, the length of the payload, the payload. The id need not be one of a kind. -/
def frame (id : Nat) (payload : List UInt8) : List UInt8 :=
  bigEndian 4 id ++ bigEndian 4 payload.length ++ payload

/-- A chunk is laid out as the frame with its kind's id. -/
theorem encode_eq_frame (chunk : Chunk) : chunk.encode = frame chunk.kind.id chunk.payload := rfl

/-- Eight bytes are two numbers of 32 bits. -/
theorem lead_eq_numbers {lead : List UInt8} (size : lead.length = Chunk.leadSize)
    : ∃ id < 2 ^ 32, ∃ length < 2 ^ 32, lead = bigEndian 4 id ++ bigEndian 4 length := by
  have first : (lead.take 4).length = 4 := by simp [size, Chunk.leadSize]
  have second : (lead.drop 4).length = 4 := by simp [size, Chunk.leadSize]
  have idBound := ofBigEndian_lt (lead.take 4)
  have lengthBound := ofBigEndian_lt (lead.drop 4)
  have idBytes := bigEndian_ofBigEndian (lead.take 4)
  have lengthBytes := bigEndian_ofBigEndian (lead.drop 4)
  rw [first] at idBound idBytes
  rw [second] at lengthBound lengthBytes
  refine ⟨_, idBound, _, lengthBound, ?_⟩
  rw [idBytes, lengthBytes, List.take_append_drop]

/-- How reading goes on behind a lead: first the id, then the sign of the length, then the payload. -/
theorem readChunk_of_lead {unknown : UnknownChunks} {cursor body : Cursor} {id length : Nat}
    (idBound : id < 2 ^ 32) (lengthBound : length < 2 ^ 32)
    (lead : cursor.take Chunk.leadSize = .ok (bigEndian 4 id ++ bigEndian 4 length, body))
    : readChunk unknown cursor
      = if ChunkKind.ofId? (signed32 id) = none ∧ unknown = .refuse then
          .error (.unknownChunk (signed32 id))
        else if signed32 length < 0 then
          .error (.negativeLength cursor.offset (signed32 length))
        else
          (ChunkKind.ofId? (signed32 id), ·)
            <$> (body.take (signed32 length).toNat).mapError .truncated := by
  have idRead : ofBigEndian (bigEndian 4 id) = id := ofBigEndian_bigEndian idBound
  have lengthRead : ofBigEndian (bigEndian 4 length) = length := ofBigEndian_bigEndian lengthBound
  simp only [readChunk, lead, List.take_left' (length_bigEndian 4 id),
    List.drop_left' (length_bigEndian 4 id), idRead, lengthRead]
  cases body.take (signed32 length).toNat <;> rfl

/-- Reading gives a payload and a position exactly when the bytes start with a frame that holds the
payload, and the frame's id is one of a kind or unknown chunks are not refused.
-/
theorem readChunk_eq_ok_iff {unknown : UnknownChunks} {cursor next : Cursor}
    {kind : Option ChunkKind} {payload : List UInt8}
    : readChunk unknown cursor = .ok (kind, payload, next)
      ↔ ∃ id < 2 ^ 32,
          kind = ChunkKind.ofId? (signed32 id)
          ∧ ¬(kind = none ∧ unknown = .refuse)
          ∧ payload.length ≤ maxPayload
          ∧ cursor.rest = frame id payload ++ next.rest
          ∧ next.offset = cursor.offset + Chunk.leadSize + payload.length := by
  constructor
  · intro h
    cases lead : cursor.take Chunk.leadSize with
    | error shortfall => simp [readChunk, lead] at h
    | ok taken =>
        obtain ⟨bytes, body⟩ := taken
        obtain ⟨size, whole, moved⟩ := Cursor.take_eq_ok_iff.mp lead
        obtain ⟨id, idBound, length, lengthBound, rfl⟩ := lead_eq_numbers size
        rw [readChunk_of_lead idBound lengthBound lead] at h
        split at h
        · contradiction
        split at h
        · contradiction
        next known nonneg =>
          -- A length that is not negative is the number that its bytes spell.
          have small := lt_of_signed32_nonneg lengthBound (Int.not_lt.mp nonneg)
          rw [signed32_of_lt small, Int.toNat_natCast] at h
          obtain ⟨taken, hp, same⟩ := map_eq_ok.mp h
          cases same
          obtain ⟨rfl, tail, behind⟩ := Cursor.take_eq_ok_iff.mp (mapError_eq_ok.mp hp)
          refine ⟨id, idBound, rfl, known, ?_, ?_, ?_⟩
          · rw [maxPayload]
            omega
          · simp only [whole, tail, frame, List.append_assoc]
          · rw [behind, moved]
  · rintro ⟨id, idBound, rfl, known, fits, whole, moved⟩
    have small : payload.length < 2 ^ 31 := by
      rw [maxPayload] at fits
      omega
    have lead : cursor.take Chunk.leadSize
        = .ok (bigEndian 4 id ++ bigEndian 4 payload.length,
            ⟨cursor.offset + Chunk.leadSize, payload ++ next.rest⟩) := by
      refine Cursor.take_eq_ok_iff.mpr ⟨?_, ?_, rfl⟩
      · simp [Chunk.leadSize]
      · rw [whole, frame, List.append_assoc]
    have body : Cursor.take ⟨cursor.offset + Chunk.leadSize, payload ++ next.rest⟩ payload.length
        = .ok (payload, next) :=
      Cursor.take_eq_ok_iff.mpr ⟨rfl, rfl, moved⟩
    have positive : ¬(payload.length : Int) < 0 := by omega
    rw [readChunk_of_lead idBound (by omega) lead, if_neg known, signed32_of_lt small,
      if_neg positive, Int.toNat_natCast]
    exact map_eq_ok.mpr ⟨_, mapError_eq_ok.mpr body, rfl⟩

-----------------------------------------------------------------------------------------
-- Rounds of reading
-----------------------------------------------------------------------------------------

/-- What is kept once a chunk was read. One of no kind is passed over, and any other goes behind those
kept if it may follow them.
-/
def keep (kept : List Chunk) (kind? : Option ChunkKind) (payload : List UInt8)
    : Except ModuleError (List Chunk) :=
  match kind? with
  | none => .ok kept
  | some kind => (fun _ => kept ++ [⟨kind, payload⟩]) <$> checkNext kept kind

/-- Up to the end of the file, each round reads a chunk and settles what is kept. -/
theorem decodeFrom_eq_rounds (unknown : UnknownChunks) (kept : List Chunk) (cursor : Cursor)
    : decodeFrom unknown kept cursor
      = if cursor.rest.isEmpty then .ok ⟨kept⟩
        else
          readChunk unknown cursor >>= fun read =>
            keep kept read.1 read.2.1 >>= fun kept => decodeFrom unknown kept read.2.2 := by
  rw [decodeFrom]
  split
  · rfl
  split
  · next error read => rw [read]; rfl
  · next payload next read => rw [read]; rfl
  · next kind payload next read =>
      rw [read]
      simp only [bind, Except.bind, keep]
      cases checkNext kept kind <;> rfl

/-- A round that reads a chunk is not the last one. -/
theorem decodeFrom_of_readChunk {unknown : UnknownChunks} {cursor next : Cursor}
    {kind? : Option ChunkKind} {payload : List UInt8}
    (read : readChunk unknown cursor = .ok (kind?, payload, next)) (kept : List Chunk)
    : decodeFrom unknown kept cursor
      = keep kept kind? payload >>= fun kept => decodeFrom unknown kept next := by
  have more : ¬cursor.rest.isEmpty = true := by
    intro ended
    have passed := readChunk_length read
    simp [List.isEmpty_iff.mp ended, Chunk.leadSize] at passed
  rw [decodeFrom_eq_rounds, if_neg more, read]
  rfl

end ModuleFile

end VmToolchain
