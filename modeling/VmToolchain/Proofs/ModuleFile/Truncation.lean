import VmToolchain.Proofs.ModuleFile.Canonical

/-! Module files that are cut short. A cut between two chunks leaves the file of the chunks before
it. Any other cut is reported, with the place and the size of the part that it goes through.
-/

namespace VmToolchain.ModuleFile

/-- What a reader misses of a chunk that starts at this offset and of which only some bytes are
left. It asks for the lead until that is whole, and then for the payload.
-/
def shortfallIn (chunk : Chunk) (start left : Nat) : Shortfall :=
  if left < Chunk.leadSize then ⟨start, Chunk.leadSize, left⟩
  else ⟨start + Chunk.leadSize, chunk.payload.length, left - Chunk.leadSize⟩

/-- Less is there than needed, up to where the bytes end. -/
theorem shortfallIn_bounds {chunk : Chunk} (start : Nat) {left : Nat}
    (cut : left < chunk.encode.length)
    : (shortfallIn chunk start left).available < (shortfallIn chunk start left).needed
      ∧ (shortfallIn chunk start left).offset + (shortfallIn chunk start left).available
        = start + left := by
  rw [chunk.length_encode] at cut
  unfold shortfallIn
  split <;> dsimp only <;> omega

/-- Bytes that are too few for a lead. -/
theorem readChunk_of_short_lead (unknown : UnknownChunks) {cursor : Cursor}
    (short : cursor.rest.length < Chunk.leadSize)
    : readChunk unknown cursor
      = .error (.truncated ⟨cursor.offset, Chunk.leadSize, cursor.rest.length⟩) := by
  have lead := Cursor.take_eq_error_iff.mpr ⟨short, rfl⟩
  rw [readChunk, lead]

/-- A lead that announces more than comes. Its id is one of a kind and its length not negative, so
nothing else is reported before.
-/
theorem readChunk_of_short_payload (unknown : UnknownChunks) (kind : ChunkKind) (offset : Nat)
    {length : Nat} {part : List UInt8} (fits : length ≤ maxPayload) (short : part.length < length)
    : readChunk unknown ⟨offset, bigEndian 4 kind.id ++ bigEndian 4 length ++ part⟩
      = .error (.truncated ⟨offset + Chunk.leadSize, length, part.length⟩) := by
  have lead : Cursor.take ⟨offset, bigEndian 4 kind.id ++ bigEndian 4 length ++ part⟩
        Chunk.leadSize
      = .ok (bigEndian 4 kind.id ++ bigEndian 4 length, ⟨offset + Chunk.leadSize, part⟩) :=
    Cursor.take_eq_ok_iff.mpr ⟨by simp [Chunk.leadSize], rfl, rfl⟩
  have body : Cursor.take ⟨offset + Chunk.leadSize, part⟩ length
      = .error ⟨offset + Chunk.leadSize, length, part.length⟩ :=
    Cursor.take_eq_error_iff.mpr ⟨short, rfl⟩
  have idSmall := kind.id_lt
  have lengthSmall : length < 2 ^ 31 := by
    rw [maxPayload] at fits
    omega
  have known : ¬(ChunkKind.ofId? (signed32 kind.id) = none ∧ unknown = .refuse) := by
    simp [kind.ofId?_signed32_id]
  have positive : ¬(length : Int) < 0 := by omega
  rw [readChunk_of_lead (by omega) (by omega) lead, if_neg known, signed32_of_lt lengthSmall,
    if_neg positive, Int.toNat_natCast, body]
  rfl

/-- A cut behind the lead goes through the payload. -/
theorem take_encode_of_lead_le {chunk : Chunk} {left : Nat} (passed : Chunk.leadSize ≤ left)
    : chunk.encode.take left
      = bigEndian 4 chunk.kind.id ++ bigEndian 4 chunk.payload.length
        ++ chunk.payload.take (left - Chunk.leadSize) := by
  have lead : (bigEndian 4 chunk.kind.id ++ bigEndian 4 chunk.payload.length).length
      = Chunk.leadSize := by
    simp [Chunk.leadSize]
  rw [Chunk.encode, List.take_append, lead, List.take_of_length_le (by rw [lead]; exact passed)]

/-- A chunk that is cut is not read, whatever becomes of unknown kinds. -/
theorem readChunk_of_cut (unknown : UnknownChunks) {chunk : Chunk}
    (fits : chunk.payload.length ≤ maxPayload) (start : Nat) {left : Nat}
    (cut : left < chunk.encode.length)
    : readChunk unknown ⟨start, chunk.encode.take left⟩
      = .error (.truncated (shortfallIn chunk start left)) := by
  unfold shortfallIn
  split
  · next short =>
      have remains : (chunk.encode.take left).length = left :=
        List.length_take_of_le (Nat.le_of_lt cut)
      rw [readChunk_of_short_lead unknown (by rw [remains]; exact short), remains]
  · next passed =>
      rw [chunk.length_encode] at cut
      have remains
          : (chunk.payload.take (left - Chunk.leadSize)).length = left - Chunk.leadSize :=
        List.length_take_of_le (by omega)
      rw [take_encode_of_lead_le (Nat.not_lt.mp passed),
        readChunk_of_short_payload unknown chunk.kind start fits (by omega), remains]

/-- Every place in the layout of some chunks is between two of them or inside of one, by induction
on the chunks.
-/
theorem boundary_or_inside {chunks : List Chunk} {size : Nat}
    (within : size ≤ (chunks.flatMap Chunk.encode).length)
    : (∃ count, size = ((chunks.take count).flatMap Chunk.encode).length)
      ∨ ∃ before chunk after left,
          chunks = before ++ chunk :: after
          ∧ size = (before.flatMap Chunk.encode).length + left
          ∧ 0 < left
          ∧ left < chunk.encode.length := by
  induction chunks generalizing size with
  | nil => exact .inl ⟨0, by simpa using within⟩
  | cons first others ih =>
      rw [List.flatMap_cons, List.length_append] at within
      rcases Nat.lt_or_ge size first.encode.length with early | passed
      · rcases Nat.eq_zero_or_pos size with rfl | some
        · exact .inl ⟨0, rfl⟩
        · exact .inr ⟨[], first, others, size, rfl, by simp, some, early⟩
      · have behind : size - first.encode.length ≤ (others.flatMap Chunk.encode).length := by omega
        rcases ih behind with ⟨count, same⟩ | ⟨before, chunk, after, left, rfl, same, inside⟩
        · refine .inl ⟨count + 1, ?_⟩
          rw [List.take_succ_cons, List.flatMap_cons, List.length_append]
          omega
        · refine .inr ⟨first :: before, chunk, after, left, rfl, ?_, inside⟩
          rw [List.flatMap_cons, List.length_append]
          omega

/-- The first chunks of a valid module are a valid module. -/
theorem Valid.take {file : ModuleFile} (valid : file.Valid) (count : Nat)
    : Valid ⟨file.chunks.take count⟩ := by
  have whole : Valid ⟨file.chunks.take count ++ file.chunks.drop count⟩ := by
    rw [List.take_append_drop]
    exact valid
  exact whole.of_append

/-- The bytes up to a boundary are the file of the chunks before it. -/
theorem take_encode_boundary (file : ModuleFile) (count : Nat)
    : file.encode.take (encode ⟨file.chunks.take count⟩).length
      = encode ⟨file.chunks.take count⟩ := by
  have whole : file.encode
      = encode ⟨file.chunks.take count⟩ ++ encode ⟨file.chunks.drop count⟩ := by
    simp only [encode]
    rw [← List.flatMap_append, List.take_append_drop]
  rw [whole, List.take_left]

/-- A file that ends inside of a chunk is refused for what is missing of this chunk. -/
theorem decode_of_cut (unknown : UnknownChunks) {before after : List Chunk} {chunk : Chunk}
    (valid : Valid ⟨before ++ chunk :: after⟩) {left : Nat} (some : 0 < left)
    (cut : left < chunk.encode.length)
    : decode unknown
          ((encode ⟨before ++ chunk :: after⟩).take ((before.flatMap Chunk.encode).length + left))
      = .error
          (.truncated (shortfallIn chunk (before.flatMap Chunk.encode).length left)) := by
  have bytes
      : (encode ⟨before ++ chunk :: after⟩).take ((before.flatMap Chunk.encode).length + left)
        = before.flatMap Chunk.encode ++ chunk.encode.take left := by
    rw [encode, List.flatMap_append, List.take_length_add_append, List.flatMap_cons,
      List.take_append_of_le_length (Nat.le_of_lt cut)]
  have fits := valid.payloads chunk (by simp)
  have more : ¬(chunk.encode.take left).isEmpty = true := by
    rw [List.isEmpty_iff_length_eq_zero, List.length_take]
    omega
  have read := decodeFrom_chunks unknown [] before 0 valid.of_append (chunk.encode.take left)
  rw [bytes, decode, Cursor.start, read, decodeFrom_eq_rounds, if_neg more,
    readChunk_of_cut unknown fits _ cut]
  simp only [Nat.zero_add]
  rfl

/-- A valid file that is cut anywhere, whatever becomes of unknown kinds. Where the cut stands
behind some first chunks, the module of these is read. Anywhere else it goes through one chunk, and
less is there than needed: of the lead of this chunk, if that is cut, and of its payload, if the
lead is whole.
-/
theorem decode_take_encode (unknown : UnknownChunks) {file : ModuleFile} (valid : file.Valid)
    {size : Nat} (within : size ≤ file.encode.length)
    : (∀ count,
        size = (encode ⟨file.chunks.take count⟩).length
        → decode unknown (file.encode.take size) = .ok ⟨file.chunks.take count⟩)
      ∧ ((∀ count, size ≠ (encode ⟨file.chunks.take count⟩).length)
        → ∃ index chunk start missing,
            file.chunks[index]? = some chunk
            ∧ start = (encode ⟨file.chunks.take index⟩).length
            ∧ start < size
            ∧ size < start + chunk.encode.length
            ∧ decode unknown (file.encode.take size) = .error (.truncated missing)
            ∧ missing.available < missing.needed
            ∧ missing.offset + missing.available = size
            ∧ (size < start + 8 → missing.offset = start ∧ missing.needed = 8)
            ∧ (start + 8 ≤ size
              → missing.offset = start + 8 ∧ missing.needed = chunk.payload.length)) := by
  constructor
  · rintro count rfl
    rw [take_encode_boundary]
    exact decode_encode unknown (valid.take count)
  · intro apart
    obtain ⟨chunks⟩ := file
    rcases boundary_or_inside within with
      ⟨count, same⟩ | ⟨before, chunk, after, left, rfl, rfl, some, cut⟩
    · exact absurd same (apart count)
    obtain ⟨fewer, ends⟩ := shortfallIn_bounds (before.flatMap Chunk.encode).length cut
    refine ⟨before.length, chunk, (before.flatMap Chunk.encode).length,
      shortfallIn chunk (before.flatMap Chunk.encode).length left, by simp, ?_,
      Nat.lt_add_of_pos_right some, Nat.add_lt_add_left cut _,
      decode_of_cut unknown valid some cut, fewer, ends, ?_, ?_⟩
    · rw [List.take_left]
      rfl
    · intro early
      have short : left < Chunk.leadSize := Nat.lt_of_add_lt_add_left early
      rw [shortfallIn, if_pos short]
      exact ⟨rfl, rfl⟩
    · intro late
      have passed : ¬left < Chunk.leadSize := Nat.not_lt.mpr (Nat.le_of_add_le_add_left late)
      rw [shortfallIn, if_neg passed]
      exact ⟨rfl, rfl⟩

/-- An empty chunk and one of two bytes. Cut behind the lead of the first, the file is whole. Inside
of the second lead three of its bytes are there, and right behind this lead none of the payload.
-/
theorem decode_take_encode_of_empty_chunk
    : Valid ⟨[⟨.constantPool, []⟩, ⟨.instructions, [7, 9]⟩]⟩
      ∧ decode .refuse ((encode ⟨[⟨.constantPool, []⟩, ⟨.instructions, [7, 9]⟩]⟩).take 8)
        = .ok ⟨[⟨.constantPool, []⟩]⟩
      ∧ decode .refuse ((encode ⟨[⟨.constantPool, []⟩, ⟨.instructions, [7, 9]⟩]⟩).take 11)
        = .error (.truncated ⟨8, 8, 3⟩)
      ∧ decode .refuse ((encode ⟨[⟨.constantPool, []⟩, ⟨.instructions, [7, 9]⟩]⟩).take 16)
        = .error (.truncated ⟨16, 2, 0⟩) := by
  have pool : Valid ⟨[⟨.constantPool, []⟩]⟩ := valid_concat_iff.mpr ⟨valid_nil, rfl, by decide⟩
  have valid : Valid ⟨[⟨.constantPool, []⟩, ⟨.instructions, [7, 9]⟩]⟩ :=
    valid_concat_iff.mpr ⟨pool, rfl, by decide⟩
  have boundaries (count : Nat)
      : (encode ⟨[⟨.constantPool, []⟩, ⟨.instructions, [7, 9]⟩].take count⟩).length
        ∈ [0, 8, 18] := by
    match count with
    | 0 => decide
    | 1 => decide
    | count + 2 =>
        rw [List.take_of_length_le (Nat.le_add_left 2 count)]
        decide
  refine ⟨valid, (decode_take_encode .refuse valid (by decide)).1 1 (by decide), ?_, ?_⟩
  · obtain ⟨index, chunk, start, ⟨offset, needed, available⟩, found, rfl, _, inside, refused, _,
      ends, early, _⟩ := (decode_take_encode .refuse valid (by decide : 11 ≤ _)).2
        (fun count same => absurd (same ▸ boundaries count) (by decide))
    match index with
    | 0 =>
        cases found
        exact absurd inside (by decide)
    | 1 =>
        obtain ⟨rfl, rfl⟩ := early (by decide)
        have three : available = 3 := Nat.add_left_cancel ends
        rw [refused, three]
        rfl
    | _ + 2 => exact absurd found (by simp)
  · obtain ⟨index, chunk, start, ⟨offset, needed, available⟩, found, rfl, _, inside, refused, _,
      ends, _, late⟩ := (decode_take_encode .refuse valid (by decide : 16 ≤ _)).2
        (fun count same => absurd (same ▸ boundaries count) (by decide))
    match index with
    | 0 =>
        cases found
        exact absurd inside (by decide)
    | 1 =>
        cases found
        obtain ⟨rfl, rfl⟩ := late (by decide)
        have none : available = 0 := Nat.add_left_cancel ends
        rw [refused, none]
        rfl
    | _ + 2 => exact absurd found (by simp)

end VmToolchain.ModuleFile
