import VmToolchain.Proofs.ModuleFile.Frames

/-! Unknown chunks. The two ways of reading a file go side by side up to the first id that stands for
no kind. There one reader stops, and the other goes on as if the chunk were not in the file.
-/

namespace VmToolchain

namespace ModuleFile

-----------------------------------------------------------------------------------------
-- Any bytes
-----------------------------------------------------------------------------------------

/-- The closed reader refuses an id that stands for no kind, or both readers find the same. -/
theorem readChunk_unknown_or_same (cursor : Cursor)
    : (∃ id,
        ChunkKind.ofId? id = none ∧ readChunk .refuse cursor = .error (.unknownChunk id))
      ∨ readChunk .skip cursor = readChunk .refuse cursor := by
  cases lead : cursor.take Chunk.leadSize with
  | error shortfall => simp only [readChunk, lead, or_true]
  | ok taken =>
      obtain ⟨bytes, body⟩ := taken
      obtain ⟨size, _, _⟩ := Cursor.take_eq_ok_iff.mp lead
      obtain ⟨id, idBound, length, lengthBound, rfl⟩ := lead_eq_numbers size
      rw [readChunk_of_lead idBound lengthBound lead, readChunk_of_lead idBound lengthBound lead]
      cases kind : ChunkKind.ofId? (signed32 id) with
      | none => exact Or.inl ⟨signed32 id, kind, by simp⟩
      | some known => exact Or.inr (by simp)

/-- Behind the same chunks, the closed reader refuses an id that stands for no kind, or both readers
end alike. The induction is on the number of bytes left, which both take in the same portions.
-/
theorem decodeFrom_unknown_or_same (kept : List Chunk) (cursor : Cursor)
    : (∃ id,
        ChunkKind.ofId? id = none
        ∧ decodeFrom .refuse kept cursor = .error (.unknownChunk id))
      ∨ decodeFrom .skip kept cursor = decodeFrom .refuse kept cursor := by
  induction size : cursor.rest.length using Nat.strongRecOn generalizing kept cursor with
  | ind size ih =>
      rw [decodeFrom_eq_rounds .refuse, decodeFrom_eq_rounds .skip]
      split
      · exact Or.inr rfl
      rcases readChunk_unknown_or_same cursor with ⟨id, none, refused⟩ | same
      · exact Or.inl ⟨id, none, by rw [refused]; rfl⟩
      -- From here on both readers do the same, up to the round that follows.
      rw [same]
      cases read : readChunk .refuse cursor with
      | error error => exact Or.inr rfl
      | ok chunk =>
          obtain ⟨kind?, payload, next⟩ := chunk
          have passed := readChunk_length read
          rw [Chunk.leadSize] at passed
          simp only [bind, Except.bind]
          cases keep kept kind? payload with
          | error error => exact Or.inr rfl
          | ok kept => exact ih next.rest.length (by omega) kept next rfl

theorem readChunk_skip_ne_unknown (cursor : Cursor) (id : Int)
    : readChunk .skip cursor ≠ .error (.unknownChunk id) := by
  intro h
  simp only [readChunk, reduceCtorEq, and_false, if_false] at h
  repeat' split at h
  all_goals simp at h

theorem checkNext_ne_unknown (kept : List Chunk) (kind : ChunkKind) (id : Int)
    : checkNext kept kind ≠ .error (.unknownChunk id) := by
  intro h
  unfold checkNext at h
  repeat' split at h
  all_goals simp at h

/-- The reader that skips never complains about an id, by induction on its rounds. -/
theorem decodeFrom_skip_ne_unknown (kept : List Chunk) (cursor : Cursor) (id : Int)
    : decodeFrom .skip kept cursor ≠ .error (.unknownChunk id) := by
  fun_induction decodeFrom .skip kept cursor with
  | case1 => exact nofun
  | case2 kept cursor more error read =>
      rintro ⟨⟩
      exact readChunk_skip_ne_unknown cursor id read
  | case3 kept cursor more payload next read ih => exact ih
  | case4 kept cursor more kind payload next read error refused =>
      rintro ⟨⟩
      exact checkNext_ne_unknown kept kind id refused
  | case5 kept cursor more kind payload next read follows ih => exact ih

/-- Whatever the bytes are, the two ways of reading them end alike, with the same module or the same
error, unless the closed reader stops at an id that stands for no kind. There they never agree.
-/
theorem decode_skip_eq_refuse_unless_unknown (bytes : List UInt8)
    : (∃ id,
        ChunkKind.ofId? id = none
        ∧ decode .refuse bytes = .error (.unknownChunk id)
        ∧ decode .skip bytes ≠ decode .refuse bytes)
      ∨ decode .skip bytes = decode .refuse bytes := by
  rcases decodeFrom_unknown_or_same [] (.start bytes) with ⟨id, none, refused⟩ | same
  · refine Or.inl ⟨id, none, refused, ?_⟩
    intro agree
    exact decodeFrom_skip_ne_unknown [] (.start bytes) id (agree.trans refused)
  · exact Or.inr same

end ModuleFile

-----------------------------------------------------------------------------------------
-- Streams of chunks
-----------------------------------------------------------------------------------------

/-- A chunk as any writer may put it into a file: an id of 32 bits, which may stand for no kind, and a
payload whose length is a number of 31 bits.
-/
structure RawChunk where
  id : Int32
  payload : List UInt8
  fits : payload.length ≤ maxPayload

namespace RawChunk

def kind? (raw : RawChunk) : Option ChunkKind :=
  ChunkKind.ofId? raw.id.toInt

def isKnown (raw : RawChunk) : Bool :=
  raw.kind?.isSome

/-- The chunk that is in the module if this one is in the file. -/
def chunk? (raw : RawChunk) : Option Chunk :=
  raw.kind?.map (Chunk.mk · raw.payload)

/-- The id and the length as words of 32 bits, then the payload. -/
def encode (raw : RawChunk) : List UInt8 :=
  wordBytes 4 raw.id.toInt ++ wordBytes 4 raw.payload.length ++ raw.payload

theorem encode_eq_frame (raw : RawChunk)
    : raw.encode = ModuleFile.frame raw.id.toUInt32.toNat raw.payload := by
  rw [encode, ModuleFile.frame, ← bigEndian_natCast, ← Int32.toInt_toBitVec,
    ← @bigEndian_toNat 4 raw.id.toBitVec]
  rfl

/-- A raw chunk is read from the front of the bytes, unless it is unknown and refused. -/
theorem readChunk_encode {unknown : UnknownChunks} {raw : RawChunk}
    (allowed : ¬(raw.kind? = none ∧ unknown = .refuse)) (offset : Nat) (rest : List UInt8)
    : ModuleFile.readChunk unknown ⟨offset, raw.encode ++ rest⟩
      = .ok (raw.kind?, raw.payload,
          ⟨offset + Chunk.leadSize + raw.payload.length, rest⟩) := by
  have kind : raw.kind? = ChunkKind.ofId? (signed32 raw.id.toUInt32.toNat) := by
    rw [signed32_toNat, kind?]
  rw [encode_eq_frame]
  exact ModuleFile.readChunk_eq_ok_iff.mpr
    ⟨_, raw.id.toUInt32.toNat_lt, kind, allowed, raw.fits, rfl, rfl⟩

end RawChunk

namespace ModuleFile

/-- Raw chunks one after the other, as the bytes of a file. -/
def stream (raws : List RawChunk) : List UInt8 :=
  raws.flatMap RawChunk.encode

/-- What is kept of raw chunks, each in its turn. -/
def keepAll (kept : List Chunk) (raws : List RawChunk) : Except ModuleError (List Chunk) :=
  raws.foldlM (fun kept raw => keep kept raw.kind? raw.payload) kept

/-- A stream is read raw chunk by raw chunk, if none of them is refused. The induction is on the raw
chunks; where the stream starts in a file does not matter.
-/
theorem decodeFrom_stream {unknown : UnknownChunks} {raws : List RawChunk}
    (allowed : ∀ raw ∈ raws, ¬(raw.kind? = none ∧ unknown = .refuse))
    (kept : List Chunk) (offset : Nat)
    : decodeFrom unknown kept ⟨offset, stream raws⟩ = ModuleFile.mk <$> keepAll kept raws := by
  induction raws generalizing kept offset with
  | nil =>
      rw [decodeFrom_eq_rounds]
      rfl
  | cons raw rest ih =>
      have read := RawChunk.readChunk_encode (allowed raw List.mem_cons_self) offset (stream rest)
      have allowed (other : RawChunk) (member : other ∈ rest) :=
        allowed other (List.mem_cons_of_mem raw member)
      rw [stream, List.flatMap_cons, ← stream, decodeFrom_of_readChunk read, keepAll,
        List.foldlM_cons]
      cases keep kept raw.kind? raw.payload with
      | error error => rfl
      | ok kept => exact ih allowed kept _

/-- Unknown chunks change nothing of what is kept. -/
theorem keepAll_filter (kept : List Chunk) (raws : List RawChunk)
    : keepAll kept (raws.filter RawChunk.isKnown) = keepAll kept raws := by
  have passed (kept : List Chunk) (raw : RawChunk)
      : (if raw.isKnown then keep kept raw.kind? raw.payload else pure kept)
        = keep kept raw.kind? raw.payload := by
    cases kind : raw.kind? with
    | none => simp [RawChunk.isKnown, kind, keep, pure, Except.pure]
    | some known => simp [RawChunk.isKnown, kind]
  simp only [keepAll, List.foldlM_filter, passed]

/-- Where nothing is refused, all known chunks are kept behind those before, in their order. -/
theorem keepAll_eq_ok {kept all : List Chunk} {raws : List RawChunk}
    (h : keepAll kept raws = .ok all)
    : all = kept ++ raws.filterMap RawChunk.chunk? := by
  induction raws generalizing kept with
  | nil =>
      cases h
      simp
  | cons raw rest ih =>
      rw [keepAll, List.foldlM_cons] at h
      obtain ⟨next, first, later⟩ := bind_eq_ok.mp h
      rw [ih later, List.filterMap_cons, RawChunk.chunk?]
      cases kind : raw.kind? with
      | none =>
          rw [kind] at first
          cases first
          rfl
      | some known =>
          rw [kind] at first
          obtain ⟨_, _, rfl⟩ := map_eq_ok.mp first
          simp

/-- Skipping drops exactly the unknown chunks. For any raw chunks, the whole stream is read as the
closed reader reads the stream without those of unknown id, with the same module or the same error,
and a module that is read has all the other chunks in their order.
-/
theorem decode_skip_stream_eq_filter (raws : List RawChunk)
    : decode .skip (stream raws) = decode .refuse (stream (raws.filter RawChunk.isKnown))
      ∧ ∀ file,
          decode .skip (stream raws) = .ok file → file.chunks = raws.filterMap RawChunk.chunk? := by
  have skipped : decode .skip (stream raws) = ModuleFile.mk <$> keepAll [] raws :=
    decodeFrom_stream (by simp) [] 0
  have known (raw : RawChunk) (member : raw ∈ raws.filter RawChunk.isKnown)
      : ¬(raw.kind? = none ∧ UnknownChunks.refuse = .refuse) := by
    intro unknown
    have kind := (List.mem_filter.mp member).2
    simp [RawChunk.isKnown, unknown.1] at kind
  have closed : decode .refuse (stream (raws.filter RawChunk.isKnown))
      = ModuleFile.mk <$> keepAll [] (raws.filter RawChunk.isKnown) :=
    decodeFrom_stream known [] 0
  refine ⟨by rw [skipped, closed, keepAll_filter], ?_⟩
  intro file read
  obtain ⟨all, kept, rfl⟩ := map_eq_ok.mp (skipped.symm.trans read)
  exact keepAll_eq_ok kept

/-- An unknown chunk stands before the header, and one behind it holds what looks like a chunk. -/
theorem decode_skip_stream_eq_filter_of_three
    : decode .skip
          (stream
            [⟨-1, [], by decide⟩, ⟨0, [83], by decide⟩,
              ⟨99, [0, 0, 0, 3, 0, 0, 0, 0], by decide⟩])
        = .ok ⟨[⟨.fileHeader, [83]⟩]⟩
      ∧ decode .refuse (stream [⟨0, [83], by decide⟩]) = .ok ⟨[⟨.fileHeader, [83]⟩]⟩
      ∧ [⟨.fileHeader, [83]⟩]
        = List.filterMap RawChunk.chunk?
            [⟨-1, [], by decide⟩, ⟨0, [83], by decide⟩,
              ⟨99, [0, 0, 0, 3, 0, 0, 0, 0], by decide⟩] := by
  have read : decode .skip
        (stream
          [⟨-1, [], by decide⟩, ⟨0, [83], by decide⟩,
            ⟨99, [0, 0, 0, 3, 0, 0, 0, 0], by decide⟩])
      = .ok ⟨[⟨.fileHeader, [83]⟩]⟩ :=
    (decodeFrom_stream (by simp) [] 0).trans (by decide)
  obtain ⟨same, chunks⟩ := decode_skip_stream_eq_filter
    [⟨-1, [], by decide⟩, ⟨0, [83], by decide⟩, ⟨99, [0, 0, 0, 3, 0, 0, 0, 0], by decide⟩]
  exact ⟨read, same.symm.trans read, chunks _ read⟩

end ModuleFile

end VmToolchain
