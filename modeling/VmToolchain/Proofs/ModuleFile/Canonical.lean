import Mathlib.Data.List.Nodup
import VmToolchain.Proofs.ModuleFile.Frames

/-! Module files are canonical: the closed reader accepts exactly what is written for valid modules.
Hence reading and writing undo each other, and no module has two files.
-/

namespace VmToolchain.ModuleFile

/-- Chunks of distinct kinds, the header only in the first place, and payloads whose length fits
into 31 bits.
-/
structure Valid (file : ModuleFile) : Prop where
  distinct : (file.chunks.map Chunk.kind).Nodup
  headerFirst
    : ∀ (index : Nat) (chunk : Chunk),
        file.chunks[index]? = some chunk → chunk.kind = .fileHeader → index = 0
  payloads : ∀ chunk ∈ file.chunks, chunk.payload.length ≤ maxPayload

-----------------------------------------------------------------------------------------
-- One chunk behind valid chunks
-----------------------------------------------------------------------------------------

/-- A chunk may follow when its kind is new, and the header only if nothing comes before it. -/
theorem checkNext_eq_ok_iff {kept : List Chunk} {kind : ChunkKind}
    : checkNext kept kind = .ok ()
      ↔ kind ∉ kept.map Chunk.kind ∧ (kind = .fileHeader → kept = []) := by
  have repeats : kept.any (fun chunk => chunk.kind == kind) = true ↔ kind ∈ kept.map Chunk.kind := by
    simp
  unfold checkNext
  split
  · next found => simp [repeats.mp found]
  · next absent =>
      have new : kind ∉ kept.map Chunk.kind := fun found => absent (repeats.mpr found)
      split
      · next late =>
          simp only [ChunkKind.isHeader, Bool.and_eq_true, beq_iff_eq, Bool.not_eq_true',
            List.isEmpty_eq_false_iff] at late
          simp [late.1, late.2]
      · next early =>
          refine iff_of_true rfl ⟨new, ?_⟩
          rintro rfl
          simpa [ChunkKind.isHeader] using early

/-- Kinds stay distinct behind one more chunk when its kind is new. -/
theorem nodup_kinds_concat_iff {kept : List Chunk} {chunk : Chunk}
    : ((kept ++ [chunk]).map Chunk.kind).Nodup
      ↔ chunk.kind ∉ kept.map Chunk.kind ∧ (kept.map Chunk.kind).Nodup := by
  rw [List.map_append, List.map_singleton, ← List.concat_eq_append, List.nodup_concat]

/-- The chunks before any others of a valid module are a valid module. -/
theorem Valid.of_append {kept tail : List Chunk} (valid : Valid ⟨kept ++ tail⟩)
    : Valid ⟨kept⟩ where
  distinct := by
    have distinct := valid.distinct
    rw [List.map_append] at distinct
    exact (List.nodup_append.mp distinct).1
  headerFirst index chunk found := by
    have inside := (List.getElem?_eq_some_iff.mp found).1
    exact valid.headerFirst index chunk (by rw [List.getElem?_append_left inside, found])
  payloads chunk member := valid.payloads chunk (List.mem_append_left tail member)

/-- Valid chunks with one more behind them are valid exactly when it may follow and its payload is
not too large.
-/
theorem valid_concat_iff {kept : List Chunk} {chunk : Chunk}
    : Valid ⟨kept ++ [chunk]⟩
      ↔ Valid ⟨kept⟩
        ∧ checkNext kept chunk.kind = .ok ()
        ∧ chunk.payload.length ≤ maxPayload := by
  rw [checkNext_eq_ok_iff]
  constructor
  · intro valid
    have new := (nodup_kinds_concat_iff.mp valid.distinct).1
    refine ⟨valid.of_append, ⟨new, ?_⟩, valid.payloads chunk (by simp)⟩
    intro header
    have first := valid.headerFirst kept.length chunk (by simp) header
    exact List.length_eq_zero_iff.mp first
  · rintro ⟨valid, ⟨new, early⟩, fits⟩
    refine ⟨nodup_kinds_concat_iff.mpr ⟨new, valid.distinct⟩, ?_, ?_⟩
    · intro index found located header
      by_cases inside : index < kept.length
      · rw [List.getElem?_append_left inside] at located
        exact valid.headerFirst index found located header
      · -- The last place is the first one only if nothing was kept before.
        have bound := (List.getElem?_eq_some_iff.mp located).1
        have last : index = kept.length := by
          simp only [List.length_append, List.length_singleton] at bound
          omega
        subst last
        rw [List.getElem?_concat_length, Option.some.injEq] at located
        simp [early (located ▸ header)]
    · intro other member
      rcases List.mem_append.mp member with earlier | last
      · exact valid.payloads other earlier
      · rw [List.mem_singleton.mp last]
        exact fits

/-- No chunks are a valid module. -/
theorem valid_nil : Valid ⟨[]⟩ :=
  ⟨.nil, by simp, by simp⟩

-----------------------------------------------------------------------------------------
-- The whole file
-----------------------------------------------------------------------------------------

/-- One round of reading: a chunk that is read and may follow is kept. -/
theorem decodeFrom_of_read {unknown : UnknownChunks} {kept : List Chunk} {cursor next : Cursor}
    {kind : ChunkKind} {payload : List UInt8}
    (read : readChunk unknown cursor = .ok (some kind, payload, next))
    (follows : checkNext kept kind = .ok ())
    : decodeFrom unknown kept cursor
      = decodeFrom unknown (kept ++ [⟨kind, payload⟩]) next := by
  rw [decodeFrom_of_readChunk read, keep, follows]
  rfl

/-- A chunk at the front of the bytes is read, whatever becomes of unknown kinds. -/
theorem readChunk_encode (unknown : UnknownChunks) {chunk : Chunk}
    (fits : chunk.payload.length ≤ maxPayload) (offset : Nat) (rest : List UInt8)
    : readChunk unknown ⟨offset, chunk.encode ++ rest⟩
      = .ok (some chunk.kind, chunk.payload,
          ⟨offset + Chunk.leadSize + chunk.payload.length, rest⟩) := by
  have small := chunk.kind.id_lt
  exact readChunk_eq_ok_iff.mpr
    ⟨chunk.kind.id, by omega, chunk.kind.ofId?_signed32_id.symm, by simp, fits,
      by rw [encode_eq_frame], rfl⟩

/-- The chunks behind those kept are read from their bytes, whatever follows these, by induction on
these chunks.
-/
theorem decodeFrom_chunks (unknown : UnknownChunks) (kept tail : List Chunk) (offset : Nat)
    (valid : Valid ⟨kept ++ tail⟩) (rest : List UInt8)
    : decodeFrom unknown kept ⟨offset, tail.flatMap Chunk.encode ++ rest⟩
      = decodeFrom unknown (kept ++ tail)
          ⟨offset + (tail.flatMap Chunk.encode).length, rest⟩ := by
  induction tail generalizing kept offset with
  | nil => simp
  | cons chunk others ih =>
      have shifted : kept ++ chunk :: others = kept ++ [chunk] ++ others := by simp
      rw [shifted] at valid ⊢
      obtain ⟨_, follows, fits⟩ := valid_concat_iff.mp valid.of_append
      have read := readChunk_encode unknown fits offset (others.flatMap Chunk.encode ++ rest)
      rw [List.flatMap_cons, List.append_assoc, decodeFrom_of_read read follows,
        ih (kept ++ [chunk]) _ valid, List.length_append, chunk.length_encode]
      simp only [Nat.add_assoc]

/-- The chunks behind those kept are read back from their bytes, whatever becomes of unknown kinds.
-/
theorem decodeFrom_encode (unknown : UnknownChunks) (kept tail : List Chunk) (offset : Nat)
    (valid : Valid ⟨kept ++ tail⟩)
    : decodeFrom unknown kept ⟨offset, tail.flatMap Chunk.encode⟩ = .ok ⟨kept ++ tail⟩ := by
  have read := decodeFrom_chunks unknown kept tail offset valid []
  rw [List.append_nil] at read
  rw [read, decodeFrom_eq_rounds]
  rfl

theorem decode_encode (unknown : UnknownChunks) {file : ModuleFile} (valid : file.Valid)
    : decode unknown file.encode = .ok file :=
  decodeFrom_encode unknown [] file.chunks 0 valid

/-- What the closed reader keeps behind valid chunks is valid, and the bytes are its layout. The
induction follows the rounds of reading, each of which takes one frame from the front.
-/
theorem valid_of_decodeFrom {kept : List Chunk} {cursor : Cursor} {file : ModuleFile}
    (valid : Valid ⟨kept⟩) (h : decodeFrom .refuse kept cursor = .ok file)
    : file.Valid
      ∧ ∃ tail, file.chunks = kept ++ tail ∧ cursor.rest = tail.flatMap Chunk.encode := by
  fun_induction decodeFrom .refuse kept cursor with
  | case1 kept cursor ended =>
      cases h
      exact ⟨valid, [], by simp, by simpa using ended⟩
  | case2 => contradiction
  | case3 kept cursor more payload next read ih =>
      -- The closed reader never passes over a chunk.
      obtain ⟨_, _, _, known, _⟩ := readChunk_eq_ok_iff.mp read
      exact absurd ⟨rfl, rfl⟩ known
  | case4 => contradiction
  | case5 kept cursor more kind payload next read follows ih =>
      obtain ⟨id, bound, known, _, fits, whole, _⟩ := readChunk_eq_ok_iff.mp read
      have own := (ChunkKind.ofId?_signed32_eq_some_iff bound).mp known.symm
      obtain ⟨result, tail, chunks, rest⟩ := ih (valid_concat_iff.mpr ⟨valid, follows, fits⟩) h
      refine ⟨result, ⟨kind, payload⟩ :: tail, by simp [chunks], ?_⟩
      rw [whole, rest, own, List.flatMap_cons, encode_eq_frame]

/-- The closed reader gives a module for some bytes exactly when the module is valid and the bytes
are its file. So reading undoes writing on valid modules, writing undoes reading on accepted bytes,
and different bytes never give the same module.
-/
theorem decode_eq_ok_iff_encode
    : (∀ bytes file, decode .refuse bytes = .ok file ↔ file.Valid ∧ bytes = file.encode)
      ∧ (∀ file : ModuleFile, file.Valid → decode .refuse file.encode = .ok file)
      ∧ (∀ bytes file, decode .refuse bytes = .ok file → file.encode = bytes)
      ∧ ∀ left right file,
          decode .refuse left = .ok file → decode .refuse right = .ok file → left = right := by
  have accepts (bytes : List UInt8) (file : ModuleFile)
      : decode .refuse bytes = .ok file ↔ file.Valid ∧ bytes = file.encode := by
    constructor
    · intro h
      obtain ⟨valid, tail, chunks, whole⟩ := valid_of_decodeFrom valid_nil h
      refine ⟨valid, ?_⟩
      rw [encode, chunks, List.nil_append]
      exact whole
    · rintro ⟨valid, rfl⟩
      exact decode_encode .refuse valid
  refine ⟨accepts, fun _ => decode_encode .refuse, ?_, ?_⟩
  · intro bytes file h
    exact ((accepts bytes file).mp h).2.symm
  · intro left right file hl hr
    rw [((accepts left file).mp hl).2, ((accepts right file).mp hr).2]

/-- A header and one instruction. -/
theorem decode_eq_ok_iff_encode_of_two_chunks
    : Valid ⟨[⟨.fileHeader, [83, 86, 77, 66, 0, 0, 0, 1]⟩, ⟨.instructions, [7]⟩]⟩
      ∧ decode .refuse
          [0, 0, 0, 0, 0, 0, 0, 8, 83, 86, 77, 66, 0, 0, 0, 1, 0, 0, 0, 3, 0, 0, 0, 1, 7]
        = .ok ⟨[⟨.fileHeader, [83, 86, 77, 66, 0, 0, 0, 1]⟩, ⟨.instructions, [7]⟩]⟩
      ∧ decode .refuse
          (encode ⟨[⟨.fileHeader, [83, 86, 77, 66, 0, 0, 0, 1]⟩, ⟨.instructions, [7]⟩]⟩)
        = .ok ⟨[⟨.fileHeader, [83, 86, 77, 66, 0, 0, 0, 1]⟩, ⟨.instructions, [7]⟩]⟩ := by
  have header : Valid ⟨[⟨.fileHeader, [83, 86, 77, 66, 0, 0, 0, 1]⟩]⟩ :=
    valid_concat_iff.mpr ⟨valid_nil, rfl, by decide⟩
  have valid : Valid ⟨[⟨.fileHeader, [83, 86, 77, 66, 0, 0, 0, 1]⟩, ⟨.instructions, [7]⟩]⟩ :=
    valid_concat_iff.mpr ⟨header, rfl, by decide⟩
  exact ⟨valid, (decode_eq_ok_iff_encode.1 _ _).mpr ⟨valid, by decide⟩,
    decode_eq_ok_iff_encode.2.1 _ valid⟩

end VmToolchain.ModuleFile
