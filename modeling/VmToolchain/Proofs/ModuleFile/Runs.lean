import VmToolchain.Proofs.ConstantPool.Interning
import VmToolchain.Proofs.ConstantPool.Layout
import VmToolchain.Proofs.ModuleFile.Building

/-! Runs of calls on a module builder. Of each kind the first chunk that is pushed stays, of the headers
that are set the last one, and a call that is refused leaves nothing behind.
-/

namespace VmToolchain

namespace PoolBuilder

/-- A pool is tested before the module is touched, and then it is pushed. -/
theorem writeInto_atomic (pool : PoolBuilder) : pool.writeInto.Atomic := by
  cases validated : pool.validate with
  | error error =>
      intro builder _ _
      rw [runOn_writeInto_of_invalid validated]
  | ok =>
      rw [writeInto_of_valid validated]
      exact (ModuleBuilder.push_atomic .constantPool pool.encode).adapt EmitError.moduleFile

end PoolBuilder

/-- A call on a module builder. -/
inductive BuilderCall where
  | push (kind : ChunkKind) (payload : List UInt8)
  | setHeader (header : FileHeader)
  | writePool (pool : PoolBuilder)

namespace BuilderCall

/-- The chunk that the call pushes, which is the payload of a pool that is written. -/
def chunk? : BuilderCall → Option Chunk
  | .push kind payload => some ⟨kind, payload⟩
  | .setHeader _ => none
  | .writePool pool => some ⟨.constantPool, pool.encode⟩

def header? : BuilderCall → Option FileHeader
  | .setHeader header => some header
  | _ => none

/-- What the call does to a builder. -/
def building : BuilderCall → Building EmitError Unit
  | .push kind payload => (ModuleBuilder.push kind payload).adapt .moduleFile
  | .setHeader header => modify (fun builder => builder.setHeader header)
  | .writePool pool => pool.writeInto

/-- The payload that the call pushes, if any, is not too large. -/
def Fits (call : BuilderCall) : Prop :=
  ∀ chunk ∈ call.chunk?, chunk.payload.length ≤ maxPayload

instance (call : BuilderCall) : Decidable call.Fits :=
  inferInstanceAs (Decidable (∀ chunk ∈ call.chunk?, chunk.payload.length ≤ maxPayload))

/-- A call that pushes is the push of its chunk. -/
theorem building_of_chunk {call : BuilderCall} {chunk : Chunk} (fits : call.Fits)
    (pushes : call.chunk? = some chunk)
    : call.building = (ModuleBuilder.push chunk.kind chunk.payload).adapt .moduleFile := by
  cases call with
  | push kind payload =>
      cases pushes
      rfl
  | setHeader header => contradiction
  | writePool pool =>
      cases pushes
      exact PoolBuilder.writeInto_of_valid (PoolBuilder.validate_of_fits (fits _ rfl))

theorem building_atomic (call : BuilderCall) : call.building.Atomic := by
  cases call with
  | push kind payload => exact (ModuleBuilder.push_atomic kind payload).adapt EmitError.moduleFile
  | setHeader header =>
      intro builder error failed
      contradiction
  | writePool pool => exact pool.writeInto_atomic

end BuilderCall

/-- The ways to start a module: with the current header, or with none. -/
inductive BuilderStart where
  | new
  | headerless

namespace BuilderStart

def builder : BuilderStart → ModuleBuilder
  | .new => .new
  | .headerless => .headerless

/-- The payload of the header that is there before any call. -/
def header? : BuilderStart → Option (List UInt8)
  | .new => some FileHeader.current.encode
  | .headerless => none

end BuilderStart

namespace ModuleBuilder

/-- The answer to a call, and the builder as the call leaves it. -/
def call (builder : ModuleBuilder) (call : BuilderCall) : Except EmitError Unit × ModuleBuilder :=
  call.building.runOn builder

/-- The builder after calls one after the other, whether they succeed or not. -/
def callAll (builder : ModuleBuilder) (calls : List BuilderCall) : ModuleBuilder :=
  calls.foldl (fun builder call => (builder.call call).2) builder

-----------------------------------------------------------------------------------------
-- One call
-----------------------------------------------------------------------------------------

theorem callAll_concat (builder : ModuleBuilder) (calls : List BuilderCall) (call : BuilderCall)
    : builder.callAll (calls ++ [call]) = ((builder.callAll calls).call call).2 := by
  simp [callAll]

/-- What a call can do: set a header, be refused because its kind is there, or push its chunk. -/
theorem call_cases (builder : ModuleBuilder) {call : BuilderCall} (fits : call.Fits)
    : (∃ header,
        call = .setHeader header ∧ builder.call call = (.ok (), builder.setHeader header))
      ∨ ∃ chunk,
          call.chunk? = some chunk
          ∧ (builder.contains chunk.kind = true
              ∧ builder.call call
                = (.error (.moduleFile (.duplicateChunk chunk.kind)), builder)
            ∨ builder.contains chunk.kind = false
              ∧ ∃ next,
                  (push chunk.kind chunk.payload).runOn builder = (.ok (), next)
                  ∧ builder.call call = (.ok (), next)) := by
  cases pushes : call.chunk? with
  | none =>
      cases call with
      | setHeader header => exact Or.inl ⟨header, rfl, rfl⟩
      | push kind payload => contradiction
      | writePool pool => contradiction
  | some chunk =>
      have small := fits chunk pushes
      refine Or.inr ⟨chunk, rfl, ?_⟩
      rw [ModuleBuilder.call, BuilderCall.building_of_chunk fits pushes, Building.runOn_adapt]
      cases found : builder.contains chunk.kind with
      | true =>
          rw [push_of_contains small found]
          exact Or.inl ⟨rfl, rfl⟩
      | false =>
          have pushed := push_eq_ok_iff.mpr ⟨small, found, rfl⟩
          exact Or.inr ⟨rfl, _, pushed, by rw [pushed]; rfl⟩

/-- A call that pushes is refused as a duplicate if its kind is there, and succeeds otherwise. -/
theorem call_answer (builder : ModuleBuilder) {call : BuilderCall} {chunk : Chunk}
    (fits : call.Fits) (pushed : call.chunk? = some chunk)
    : (builder.call call).1
      = if builder.contains chunk.kind then .error (.moduleFile (.duplicateChunk chunk.kind))
        else .ok () := by
  rcases builder.call_cases fits
    with ⟨_, rfl, _⟩ | ⟨other, same, ⟨found, done⟩ | ⟨absent, next, _, done⟩⟩
  · contradiction
  · cases pushed.symm.trans same
    rw [done, if_pos found]
  · cases pushed.symm.trans same
    rw [done, absent]
    rfl

theorem Reachable.call {builder : ModuleBuilder} (reachable : builder.Reachable)
    {call : BuilderCall} (fits : call.Fits)
    : (builder.call call).2.Reachable := by
  rcases builder.call_cases fits
    with ⟨header, _, done⟩ | ⟨chunk, _, ⟨_, done⟩ | ⟨_, next, accepted, done⟩⟩
  · rw [done]
    exact reachable.setHeader header
  · rw [done]
    exact reachable
  · rw [done]
    exact reachable.of_push accepted

/-- A call that pushes fills the header's place if it is empty and the chunk is a header, and adds the
chunk to the others if its kind is new there.
-/
theorem call_push {builder : ModuleBuilder} {call : BuilderCall} {chunk : Chunk}
    (fits : call.Fits) (pushed : call.chunk? = some chunk)
    : (builder.call call).2
      = { header? :=
            builder.header?.or (if chunk.kind.isHeader then some chunk.payload else none)
          chunks :=
            if chunk.kind.isHeader ∨ chunk.kind ∈ builder.chunks.map Chunk.kind
            then builder.chunks else builder.chunks ++ [chunk] } := by
  rcases builder.call_cases fits
    with ⟨_, rfl, _⟩ | ⟨other, same, ⟨found, done⟩ | ⟨absent, next, accepted, done⟩⟩
  · contradiction
  · cases pushed.symm.trans same
    rw [done]
    -- The place that the kind belongs to is taken, and the push does not touch the other one.
    by_cases isHeader : chunk.kind.isHeader = true
    · have there : builder.header?.isSome = true := by simpa [contains, isHeader] using found
      rw [if_pos (Or.inl isHeader), Option.or_of_isSome there]
    · have there := (contains_eq_true_iff isHeader).mp found
      rw [if_pos (Or.inr there), if_neg isHeader, Option.or_none]
  · cases pushed.symm.trans same
    obtain ⟨_, _, rfl⟩ := push_eq_ok_iff.mp accepted
    rw [done]
    by_cases isHeader : chunk.kind.isHeader = true
    · have empty : builder.header? = none := by simpa [contains, isHeader] using absent
      rw [if_pos isHeader, if_pos isHeader, if_pos (Or.inl isHeader), empty, Option.none_or]
    · have new := not_mem_kinds_of_absent isHeader absent
      rw [if_neg isHeader, if_neg isHeader, if_neg (not_or.mpr ⟨isHeader, new⟩), Option.or_none]

-----------------------------------------------------------------------------------------
-- What a history leads to
-----------------------------------------------------------------------------------------

/-- The chunks that calls push, those that are refused included. -/
def pushes (calls : List BuilderCall) : List Chunk :=
  calls.filterMap BuilderCall.chunk?

/-- Of each kind the first chunk, in the order in which the kinds first come. -/
def firstOfEachKind (chunks : List Chunk) : List Chunk :=
  (chunks.map Chunk.kind).eraseDups.filterMap
    (fun kind => chunks.find? (fun chunk => chunk.kind == kind))

/-- The payload of the header that was set last, else of the one that was there from the start, else
of the one that was pushed first.
-/
def headerAfter (start : BuilderStart) (calls : List BuilderCall) : Option (List UInt8) :=
  ((calls.filterMap BuilderCall.header?).getLast?.map FileHeader.encode).or
    (start.header?.or
      (((pushes calls).find? (fun chunk => chunk.kind.isHeader)).map Chunk.payload))

/-- Of each kind other than the header's the chunk that was pushed first. -/
def chunksAfter (calls : List BuilderCall) : List Chunk :=
  firstOfEachKind ((pushes calls).filter (fun chunk => !chunk.kind.isHeader))

theorem find?_of_mem_kinds {chunks : List Chunk} {kind : ChunkKind}
    (member : kind ∈ chunks.map Chunk.kind)
    : ∃ chunk,
        chunks.find? (fun chunk => chunk.kind == kind) = some chunk ∧ chunk.kind = kind := by
  obtain ⟨chunk, inside, same⟩ := List.mem_map.mp member
  have found : (chunks.find? (fun chunk => chunk.kind == kind)).isSome :=
    List.find?_isSome.mpr ⟨chunk, inside, by simp [same]⟩
  obtain ⟨first, located⟩ := Option.isSome_iff_exists.mp found
  have named := List.find?_some located
  exact ⟨first, located, eq_of_beq named⟩

theorem mem_kinds_firstOfEachKind {chunks : List Chunk} {kind : ChunkKind}
    : kind ∈ (firstOfEachKind chunks).map Chunk.kind ↔ kind ∈ chunks.map Chunk.kind := by
  constructor
  · intro member
    obtain ⟨chunk, first, rfl⟩ := List.mem_map.mp member
    obtain ⟨_, _, located⟩ := List.mem_filterMap.mp first
    exact List.mem_map_of_mem (List.mem_of_find?_eq_some located)
  · intro member
    obtain ⟨chunk, located, rfl⟩ := find?_of_mem_kinds member
    refine List.mem_map_of_mem (List.mem_filterMap.mpr ⟨chunk.kind, ?_, located⟩)
    rw [List.mem_eraseDups]
    exact member

/-- One more chunk joins the first ones if its kind is new, and changes nothing else. -/
theorem firstOfEachKind_concat (chunks : List Chunk) (chunk : Chunk)
    : firstOfEachKind (chunks ++ [chunk])
      = if chunk.kind ∈ chunks.map Chunk.kind then firstOfEachKind chunks
        else firstOfEachKind chunks ++ [chunk] := by
  -- The kinds there already find the same chunks as before.
  have earlier : (chunks.map Chunk.kind).eraseDups.filterMap
        (fun kind => (chunks ++ [chunk]).find? (fun chunk => chunk.kind == kind))
      = firstOfEachKind chunks := by
    apply List.filterMap_congr
    intro kind member
    rw [List.mem_eraseDups] at member
    obtain ⟨first, located, _⟩ := find?_of_mem_kinds member
    rw [List.find?_append, located]
    rfl
  rw [firstOfEachKind, List.map_append, List.map_singleton, eraseDups_concat]
  by_cases member : chunk.kind ∈ chunks.map Chunk.kind
  · rw [if_pos (by simpa using member), if_pos member]
    exact earlier
  · have none : chunks.find? (fun other => other.kind == chunk.kind) = none := by
      rw [List.find?_eq_none]
      intro other inside same
      exact member (List.mem_map.mpr ⟨other, inside, eq_of_beq same⟩)
    rw [if_neg (by simpa using member), if_neg member, List.filterMap_append, earlier]
    simp [List.find?_append, none]

theorem headerAfter_setHeader (start : BuilderStart) (calls : List BuilderCall)
    (header : FileHeader)
    : headerAfter start (calls ++ [.setHeader header]) = some header.encode := by
  simp [headerAfter, BuilderCall.header?]

/-- A push gives the header only where there is none. -/
theorem headerAfter_push (start : BuilderStart) (calls : List BuilderCall) {call : BuilderCall}
    {chunk : Chunk} (pushed : call.chunk? = some chunk)
    : headerAfter start (calls ++ [call])
      = (headerAfter start calls).or
          (if chunk.kind.isHeader then some chunk.payload else none) := by
  have notSet : call.header? = none := by
    cases call with
    | setHeader header => contradiction
    | push kind payload => rfl
    | writePool pool => rfl
  have last : (List.find? (fun chunk => chunk.kind.isHeader) [chunk]).map Chunk.payload
      = if chunk.kind.isHeader then some chunk.payload else none := by
    cases header : chunk.kind.isHeader <;> simp [header]
  -- What is pushed comes last in the choice of a header, so the new push comes behind all of it.
  simp only [headerAfter, pushes, List.filterMap_append, List.filterMap_cons_none notSet,
    List.filterMap_cons_some pushed, List.filterMap_nil, List.append_nil, List.find?_append,
    Option.map_or, last, Option.or_assoc]

theorem chunksAfter_setHeader (calls : List BuilderCall) (header : FileHeader)
    : chunksAfter (calls ++ [.setHeader header]) = chunksAfter calls := by
  rw [chunksAfter, pushes, List.filterMap_append, List.filterMap_cons_none rfl,
    List.filterMap_nil, List.append_nil]
  rfl

/-- A push gives another chunk only where its kind is new and not the header's. -/
theorem chunksAfter_push (calls : List BuilderCall) {call : BuilderCall} {chunk : Chunk}
    (pushed : call.chunk? = some chunk)
    : chunksAfter (calls ++ [call])
      = if chunk.kind.isHeader ∨ chunk.kind ∈ (chunksAfter calls).map Chunk.kind
        then chunksAfter calls else chunksAfter calls ++ [chunk] := by
  have history : pushes (calls ++ [call]) = pushes calls ++ [chunk] := by
    simp [pushes, List.filterMap_append, pushed]
  rw [chunksAfter, history, List.filter_append]
  by_cases header : chunk.kind.isHeader = true
  · rw [if_pos (Or.inl header)]
    simp [chunksAfter, header]
  · have other : [chunk].filter (fun chunk => !chunk.kind.isHeader) = [chunk] := by simp [header]
    rw [other, firstOfEachKind_concat]
    simp only [header, Bool.false_eq_true, false_or, chunksAfter, mem_kinds_firstOfEachKind]

-----------------------------------------------------------------------------------------
-- Runs
-----------------------------------------------------------------------------------------

/-- The builder can be had, and it holds what the history of calls says. -/
structure Follows (start : BuilderStart) (calls : List BuilderCall) (builder : ModuleBuilder)
    : Prop where
  reachable : builder.Reachable
  header : builder.header? = headerAfter start calls
  chunks : builder.chunks = chunksAfter calls

theorem follows_start (start : BuilderStart) : Follows start [] start.builder := by
  cases start with
  | new => exact ⟨.new, rfl, rfl⟩
  | headerless => exact ⟨.headerless, rfl, rfl⟩

/-- Each call leads from what its history says to what the longer history says. -/
theorem Follows.call {start : BuilderStart} {calls : List BuilderCall} {builder : ModuleBuilder}
    (follows : Follows start calls builder) {call : BuilderCall} (fits : call.Fits)
    : Follows start (calls ++ [call]) (builder.call call).2 := by
  have reachable := follows.reachable.call fits
  cases pushed : call.chunk? with
  | none =>
      cases call with
      | setHeader header =>
          refine ⟨reachable, (headerAfter_setHeader start calls header).symm, ?_⟩
          rw [chunksAfter_setHeader]
          exact follows.chunks
      | push kind payload => contradiction
      | writePool pool => contradiction
  | some chunk =>
      refine ⟨reachable, ?_, ?_⟩
      · rw [call_push fits pushed, headerAfter_push start calls pushed, follows.header]
      · rw [call_push fits pushed, chunksAfter_push calls pushed, ← follows.chunks]

/-- After any run the builder holds what the history says, by induction on the calls from the last
one.
-/
theorem callAll_follows (start : BuilderStart) {calls : List BuilderCall}
    (fits : ∀ call ∈ calls, call.Fits)
    : Follows start calls (start.builder.callAll calls) := by
  induction calls using List.reverseRecOn with
  | nil => exact follows_start start
  | append_singleton calls call ih =>
      rw [callAll_concat]
      apply (ih (fun earlier member => fits earlier (List.mem_append_left _ member))).call
      exact fits call (List.mem_append_right _ List.mem_cons_self)

/-- Runs of a builder, from either start. A push is refused as a duplicate exactly when its kind is
there, and what is refused changes nothing. In the finished module the header comes first, and it is
the one that was set last, else the one of the start, else the one pushed first; behind it comes for
each other kind what was pushed of it first, in the order of these pushes. A kind is said to be there
exactly when the module has it, and the module is read back from its file in both ways.
-/
theorem run_keeps_first_pushes (start : BuilderStart) (calls : List BuilderCall)
    (fits : ∀ call ∈ calls, call.Fits)
    : (∀ earlier call,
        earlier ++ [call] <+: calls →
        (∀ chunk,
          call.chunk? = some chunk →
          ((start.builder.callAll earlier).call call).1
            = if (start.builder.callAll earlier).contains chunk.kind then
                .error (.moduleFile (.duplicateChunk chunk.kind))
              else .ok ())
        ∧ ∀ error,
            ((start.builder.callAll earlier).call call).1 = .error error →
            start.builder.callAll (earlier ++ [call]) = start.builder.callAll earlier)
      ∧ (start.builder.callAll calls).finish.chunks
        = ((headerAfter start calls).map (Chunk.mk .fileHeader)).toList ++ chunksAfter calls
      ∧ (∀ kind,
          (start.builder.callAll calls).contains kind = true
          ↔ ∃ chunk ∈ (start.builder.callAll calls).finish.chunks, chunk.kind = kind)
      ∧ ∀ unknown,
          ModuleFile.decode unknown (start.builder.callAll calls).finish.encode
            = .ok (start.builder.callAll calls).finish := by
  have follows := callAll_follows start fits
  have wellFormed := follows.reachable.wellFormed
  refine ⟨?_, ?_, wellFormed.contains_iff, ?_⟩
  · intro earlier call part
    have member : call ∈ calls := part.subset (by simp)
    refine ⟨fun chunk pushed => call_answer _ (fits call member) pushed, ?_⟩
    intro error refused
    rw [callAll_concat]
    exact call.building_atomic _ error refused
  · rw [finish, follows.header, follows.chunks]
  · intro unknown
    exact ModuleFile.decode_encode unknown wellFormed.finish_valid

/-- Instructions twice, a header that is pushed and one that is set behind it, and a pool. -/
theorem run_keeps_first_pushes_of_five
    : ∃ builder,
        builder
          = BuilderStart.headerless.builder.callAll
              [.push .instructions [1], .push .instructions [2], .push .fileHeader [3],
                .setHeader .current, .writePool (PoolBuilder.empty.internAll [.int 7])]
        ∧ ((BuilderStart.headerless.builder.callAll [.push .instructions [1]]).call
              (.push .instructions [2])).1
          = .error (.moduleFile (.duplicateChunk .instructions))
        ∧ builder.finish.chunks
          = [⟨.fileHeader, [83, 86, 77, 66, 0, 0, 0, 1]⟩, ⟨.instructions, [1]⟩,
              ⟨.constantPool, [0, 0, 0, 1, 0, 0, 0, 0, 0, 0, 0, 0, 7]⟩]
        ∧ builder.contains .jumpTable = false
        ∧ ModuleFile.decode .refuse builder.finish.encode = .ok builder.finish := by
  obtain ⟨answers, chunks, _, decoded⟩ := run_keeps_first_pushes .headerless
    [.push .instructions [1], .push .instructions [2], .push .fileHeader [3],
      .setHeader .current, .writePool (PoolBuilder.empty.internAll [.int 7])]
    (by decide)
  have refused := (answers [.push .instructions [1]] (.push .instructions [2]) ⟨_, rfl⟩).1 _ rfl
  exact ⟨_, rfl, refused.trans (if_pos (by decide)), chunks.trans (by decide), by decide,
    decoded .refuse⟩

end ModuleBuilder

end VmToolchain
