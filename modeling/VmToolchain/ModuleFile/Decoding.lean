import VmToolchain.ModuleFile.Basic

/-! Reading a module file chunk by chunk. -/

namespace VmToolchain

/-- What becomes of chunks whose kind is unknown. -/
inductive UnknownChunks where
  | refuse
  | skip
deriving DecidableEq, Repr

namespace ModuleFile

/-- The next chunk: its kind, if it is known, its payload and the position behind it. An unknown id
is refused unless such chunks are skipped; this comes before any look at the length.
-/
def readChunk (unknown : UnknownChunks) (cursor : Cursor)
    : Except ModuleError (Option ChunkKind × List UInt8 × Cursor) :=
  match cursor.take Chunk.leadSize with
  | .error shortfall => .error (.truncated shortfall)
  | .ok (lead, body) =>
      let id := signed32 (ofBigEndian (lead.take 4))
      let length := signed32 (ofBigEndian (lead.drop 4))
      let kind := ChunkKind.ofId? id
      if kind = none ∧ unknown = .refuse then .error (.unknownChunk id)
      else if length < 0 then .error (.negativeLength cursor.offset length)
      else
        match body.take length.toNat with
        | .error shortfall => .error (.truncated shortfall)
        | .ok (payload, next) => .ok (kind, payload, next)

/-- Reading a chunk passes at least its id and its length. -/
theorem readChunk_length {unknown : UnknownChunks} {cursor next : Cursor}
    {kind : Option ChunkKind} {payload : List UInt8}
    (h : readChunk unknown cursor = .ok (kind, payload, next))
    : next.rest.length + Chunk.leadSize ≤ cursor.rest.length := by
  simp only [readChunk] at h
  split at h
  · simp only [reduceCtorEq] at h
  · next hl =>
      have hl := Cursor.take_length hl
      split at h
      · simp only [reduceCtorEq] at h
      · split at h
        · simp only [reduceCtorEq] at h
        · split at h
          · simp only [reduceCtorEq] at h
          · next hp =>
              have hp := Cursor.take_length hp
              simp only [Except.ok.injEq, Prod.mk.injEq] at h
              obtain ⟨_, _, rfl⟩ := h
              omega

/-- Whether a chunk of this kind may follow the chunks kept so far. -/
def checkNext (kept : List Chunk) (kind : ChunkKind) : Except ModuleError Unit :=
  if kept.any (fun chunk => chunk.kind == kind) then .error (.duplicateChunk kind)
  else if kind.isHeader && !kept.isEmpty then .error .headerNotFirst
  else .ok ()

/-- Reads chunks up to the end of the file, behind those kept so far. -/
def decodeFrom (unknown : UnknownChunks) (kept : List Chunk) (cursor : Cursor)
    : Except ModuleError ModuleFile :=
  if cursor.rest.isEmpty then .ok ⟨kept⟩
  else
    match _h : readChunk unknown cursor with
    | .error error => .error error
    | .ok (none, _, next) => decodeFrom unknown kept next
    | .ok (some kind, payload, next) =>
        match checkNext kept kind with
        | .error error => .error error
        | .ok () => decodeFrom unknown (kept ++ [⟨kind, payload⟩]) next
termination_by cursor.rest.length
decreasing_by
  all_goals
    have := readChunk_length ‹_›
    simp only [Chunk.leadSize] at this
    omega

/-- The module that the bytes are the file of. -/
def decode (unknown : UnknownChunks) (bytes : List UInt8) : Except ModuleError ModuleFile :=
  decodeFrom unknown [] (.start bytes)

variable {m : Type → Type} [Monad m]

/-- The module in a file. -/
def load (files : FileAccess m) (unknown : UnknownChunks) (path : String)
    : m (Except ModuleError ModuleFile) := do
  match ← files.read path with
  | .error error => return .error (.file error)
  | .ok bytes => return decode unknown bytes

/-- Writes the module to a file. -/
def save (files : FileAccess m) (path : String) (file : ModuleFile)
    : m (Except ModuleError Unit) := do
  match ← files.write path file.encode with
  | .error error => return .error (.file error)
  | .ok () => return .ok ()

end ModuleFile

end VmToolchain
