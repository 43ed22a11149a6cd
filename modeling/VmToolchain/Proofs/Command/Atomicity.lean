import VmToolchain.Proofs.Command.FoldReport
import VmToolchain.Proofs.Store

/-! Commands do all of their work or none of it. A command reads first and writes last, and it writes
one file; where it fails, on whatever file and at whatever step, nothing has been written.
-/

namespace VmToolchain

-----------------------------------------------------------------------------------------
-- Systems of files
-----------------------------------------------------------------------------------------

/-- Files in a state that neither reading nor a refused write changes. -/
structure FileAccess.Lawful {σ : Type} (files : FileAccess (StateM σ)) : Prop where
  read : ∀ path state, ((files.read path).run state).2 = state
  refused
    : ∀ {path bytes state error after},
        (files.write path bytes).run state = (.error error, after) → after = state

/-- Files as a map: what there is to be read along each path, and why not where there is nothing. -/
def FileMap : Type := String → Except FileError (List UInt8)

namespace FileMap

/-- The map with these contents at a path. -/
def put (files : FileMap) (path : String) (bytes : List UInt8) : FileMap :=
  fun other => if other = path then .ok bytes else files other

/-- Reading looks a path up, and writing puts the contents there unless the system refuses it. -/
def access (refusal? : FileMap → String → List UInt8 → Option FileError)
    : FileAccess (StateM FileMap) where
  read path := do return (← get) path
  write path bytes := do
    match refusal? (← get) path bytes with
    | some error => return .error error
    | none =>
        modify (·.put path bytes)
        return .ok ()

/-- A write is refused and changes nothing, or it puts the contents at the path. -/
theorem write_cases (refusal? : FileMap → String → List UInt8 → Option FileError)
    (files : FileMap) (path : String) (bytes : List UInt8)
    : (∃ error, ((access refusal?).write path bytes).run files = (.error error, files))
      ∨ ((access refusal?).write path bytes).run files = (.ok (), files.put path bytes) := by
  cases refused : refusal? files path bytes with
  | some error => exact Or.inl ⟨error, by simp [access, refused]; rfl⟩
  | none => exact Or.inr (by simp [access, refused]; rfl)

theorem access_lawful (refusal? : FileMap → String → List UInt8 → Option FileError)
    : (access refusal?).Lawful where
  read _ _ := rfl
  refused {path bytes files error after} h := by
    rcases write_cases refusal? files path bytes with ⟨other, written⟩ | written
    · cases written.symm.trans h
      rfl
    · cases written.symm.trans h

end FileMap

namespace Store

theorem write_cases (store : Store) (path : String) (bytes : List UInt8)
    : (∃ error, (access.write path bytes).run store = (.error error, store))
      ∨ ∃ after,
          store.write path bytes = .ok after
          ∧ (access.write path bytes).run store = (.ok (), after) := by
  cases written : store.write path bytes with
  | error error => exact Or.inl ⟨error, by simp [access, written]; rfl⟩
  | ok after => exact Or.inr ⟨after, rfl, by simp [access, written]; rfl⟩

theorem access_lawful : access.Lawful where
  read _ _ := rfl
  refused {path bytes store error after} h := by
    rcases write_cases store path bytes with ⟨other, written⟩ | ⟨next, _, written⟩
    · cases written.symm.trans h
      rfl
    · cases written.symm.trans h

end Store

-----------------------------------------------------------------------------------------
-- Work that ends with a write
-----------------------------------------------------------------------------------------

namespace Command

variable {σ α : Type} {files : FileAccess (StateM σ)} {state : σ}

/-- How work that ends with a write may come out: it has failed and the state is as it was, or one
write to the path has succeeded.
-/
inductive Wrote (files : FileAccess (StateM σ)) (path : String) (before : σ)
    : Except CommandFailure α × σ → Prop where
  | failed (failure : CommandFailure) : Wrote files path before (.error failure, before)
  | done (value : α) {bytes : List UInt8} {after : σ}
    : (files.write path bytes).run before = (.ok (), after)
      → Wrote files path before (.ok value, after)

/-- How a command may come out: it has failed, or it has succeeded and has written nothing, or it has
succeeded with one write to its output.
-/
inductive Ended (files : FileAccess (StateM σ)) (output? : Option String) (before : σ)
    : Outcome × σ → Prop where
  | failed (trace : String) (failure : CommandFailure)
    : Ended files output? before (.failure trace failure, before)
  | shown (stdout stderr : String) : Ended files output? before (.success stdout stderr, before)
  | wrote (stdout stderr : String) {output : String} {bytes : List UInt8} {after : σ}
    : output? = some output
      → (files.write output bytes).run before = (.ok (), after)
      → Ended files output? before (.success stdout stderr, after)

/-- What is read is handed on, and the state stays as it is. -/
theorem run_read_bind (lawful : files.Lawful) (path : String)
    (next : Except FileError (List UInt8) → StateM σ α) (state : σ)
    : (files.read path >>= next).run state
      = (next ((files.read path).run state).1).run state := by
  rw [StateT.run_bind]
  have kept := lawful.read path state
  generalize (files.read path).run state = found at kept ⊢
  obtain ⟨contents, after⟩ := found
  cases kept
  rfl

theorem ended_runDump (lawful : files.Lawful) (terminal : Bool) (options : DumpOptions)
    (state : σ)
    : Ended files none state ((runDump files terminal options).run state) := by
  unfold runDump
  rw [run_read_bind lawful]
  cases ((files.read options.path).run state).1 with
  | error error => exact .failed _ _
  | ok bytes =>
      dsimp only
      cases dumpText options (options.color.palette terminal) bytes with
      | error failure => exact .failed _ _
      | ok text => exact .shown _ _

/-- Adding chunks only reads, by induction on the chunks. -/
theorem addChunks_keeps_state (lawful : files.Lawful) (builder : ModuleBuilder)
    (specs : List ChunkSpec) (state : σ)
    : ((addChunks files builder specs).run state).2 = state := by
  induction specs generalizing builder with
  | nil => rfl
  | cons spec rest ih =>
      unfold addChunks
      rw [run_read_bind lawful]
      cases ((files.read spec.path).run state).1 with
      | error error => rfl
      | ok payload =>
          dsimp only
          cases (ModuleBuilder.push spec.kind payload).runOn builder with
          | mk answer next =>
              cases answer with
              | error error => rfl
              | ok => exact ih next

/-- A write whose refusal is a failure is the last step of such work. -/
theorem wrote_of_write (lawful : files.Lawful) {path : String} {bytes : List UInt8}
    {next : Except FileError Unit → StateM σ (Except CommandFailure α)} (value : α)
    (onRefusal : ∀ error, next (.error error) = pure (.error (.file path error)))
    (onSuccess : next (.ok ()) = pure (.ok value)) (state : σ)
    : Wrote files path state ((files.write path bytes >>= next).run state) := by
  rw [StateT.run_bind]
  cases written : (files.write path bytes).run state with
  | mk result after =>
      cases result with
      | error error =>
          change Wrote files path state ((next (.error error)).run after)
          rw [onRefusal, lawful.refused written]
          exact .failed _
      | ok =>
          change Wrote files path state ((next (.ok ())).run after)
          rw [onSuccess]
          exact .done value written

theorem wrote_assemble (lawful : files.Lawful) (options : PackOptions) (state : σ)
    : Wrote files options.output state ((assemble files options).run state) := by
  unfold assemble
  rw [StateT.run_bind]
  have kept := addChunks_keeps_state lawful
    (if options.header then .new else .headerless) options.chunks state
  generalize (addChunks files _ options.chunks).run state = added at kept ⊢
  obtain ⟨result, after⟩ := added
  cases kept
  cases result with
  | error failure => exact .failed failure
  | ok builder => exact wrote_of_write lawful _ (fun _ => rfl) rfl _

theorem wrote_writePool (lawful : files.Lawful) (e : Expr) (path : String) (state : σ)
    : Wrote files path state ((writePool files e path).run state) := by
  unfold writePool
  dsimp only
  cases (poolOf e).writeInto.runOn .new with
  | mk answer builder =>
      cases answer with
      | error error => exact .failed _
      | ok => exact wrote_of_write lawful _ (fun _ => rfl) rfl state

-----------------------------------------------------------------------------------------
-- Commands
-----------------------------------------------------------------------------------------

theorem ended_runPack (lawful : files.Lawful) (options : PackOptions) (state : σ)
    : Ended files (some options.output) state ((runPack files options).run state) := by
  unfold runPack
  rw [StateT.run_bind]
  have wrote := wrote_assemble lawful options state
  generalize (assemble files options).run state = ended at wrote ⊢
  cases wrote with
  | failed failure => exact .failed _ _
  | done value written => exact .wrote _ _ rfl written

theorem ended_foldExpr (lawful : files.Lawful) (terminal : Bool) (options : FoldOptions)
    (e : Expr) (state : σ)
    : Ended files options.output? state ((foldExpr files terminal options e).run state) := by
  cases reported : (foldText (startSession terminal options) e).1 with
  | error error =>
      rw [foldExpr_of_error reported]
      exact .failed _ _
  | ok report =>
      obtain ⟨folded, text⟩ := report
      cases named : options.output? with
      | none =>
          rw [foldExpr_of_no_output reported named]
          exact .shown _ _
      | some output =>
          rw [foldExpr_of_output reported named, StateT.run_bind]
          have wrote := wrote_writePool lawful folded output state
          generalize (writePool files folded output).run state = ended at wrote ⊢
          cases wrote with
          | failed failure => exact .failed _ _
          | done value written => exact .wrote _ _ rfl written

theorem ended_runFold (lawful : files.Lawful) (terminal : Bool) (options : FoldOptions)
    (state : σ)
    : Ended files options.output? state ((runFold files terminal options).run state) := by
  unfold runFold
  rw [run_read_bind lawful]
  cases ((files.read options.path).run state).1 with
  | error error => exact .failed _ _
  | ok bytes =>
      dsimp only
      cases Expr.parse? bytes with
      | none => exact .failed _ _
      | some e => exact ended_foldExpr lawful terminal options e state

/-- The file that a command may write. -/
def output? : Command → Option String
  | .dump _ | .catalog _ => none
  | .pack options => some options.output
  | .fold options => options.output?

/-- Every command comes out in one of these ways. -/
theorem ended_run (lawful : files.Lawful) (terminal : Bool) (command : Command) (state : σ)
    : Ended files command.output? state ((command.run files terminal).run state) := by
  cases command with
  | dump options => exact ended_runDump lawful terminal options state
  | pack options => exact ended_runPack lawful options state
  | fold options => exact ended_runFold lawful terminal options state
  | catalog json => exact .shown _ _

/-- All or nothing: a command has failed with status 1 and nothing on the standard output, and the
state is as it was before; or it has succeeded, and the state is as it was or differs by what was
written to the output.
-/
def AllOrNothing {σ : Type} (command : Command) (before : σ) (Written : String → σ → Prop)
    (ended : Outcome × σ) : Prop :=
  (∃ trace failure,
    ended.1 = .failure trace failure
    ∧ ended.1.status = 1
    ∧ ended.1.stdout = ""
    ∧ ended.2 = before)
  ∨ ended.1.status = 0
    ∧ (ended.2 = before ∨ ∃ output, command.output? = some output ∧ Written output ended.2)

theorem Ended.allOrNothing {command : Command} {Written : String → σ → Prop}
    {ended : Outcome × σ} (h : Ended files command.output? state ended)
    (written : ∀ output bytes after,
      (files.write output bytes).run state = (.ok (), after) → Written output after)
    : AllOrNothing command state Written ended := by
  cases h with
  | failed trace failure => exact Or.inl ⟨trace, failure, rfl, rfl, rfl, rfl⟩
  | shown stdout stderr => exact Or.inr ⟨rfl, Or.inl rfl⟩
  | wrote stdout stderr named done =>
      exact Or.inr ⟨rfl, Or.inr ⟨_, named, written _ _ _ done⟩⟩

/-- Commands are all or nothing, on every system of files and with all options. On files that are a map
from paths to contents, a command that fails leaves the map as it was, and one that succeeds has at most
put new contents at its output, whether or not it has read from there. In a store with directories, this
is the place that the output leads to, and what stands at all other places is the same.
-/
theorem run_all_or_nothing (terminal : Bool) (command : Command)
    : (∀ (refusal? : FileMap → String → List UInt8 → Option FileError) (files : FileMap),
        AllOrNothing command files (fun output after => ∃ bytes, after = files.put output bytes)
          ((command.run (FileMap.access refusal?) terminal).run files))
      ∧ ∀ store : Store,
          AllOrNothing command store
            (fun output after =>
              ∃ bytes target,
                store.LeadsTo (store.origin output) (Store.targetNames output) target
                ∧ after.read output = .ok bytes
                ∧ ∀ names, names ≠ target → after.entry? names = store.entry? names)
            ((command.run Store.access terminal).run store) := by
  constructor
  · intro refusal? files
    refine (ended_run (FileMap.access_lawful refusal?) terminal command files).allOrNothing ?_
    intro output bytes after done
    rcases FileMap.write_cases refusal? files output bytes with ⟨_, refused⟩ | written
    · cases refused.symm.trans done
    · cases written.symm.trans done
      exact ⟨bytes, rfl⟩
  · intro store
    refine (ended_run Store.access_lawful terminal command store).allOrNothing ?_
    intro output bytes after done
    rcases store.write_cases output bytes with ⟨_, refused⟩ | ⟨next, written, ran⟩
    · cases refused.symm.trans done
    · cases ran.symm.trans done
      have found := Store.read_of_write written
      obtain ⟨_, _, target, leads, rfl⟩ := Store.leadsTo_of_write written
      refine ⟨bytes, target, leads, found, fun names other => ?_⟩
      rw [Store.entry?_put store leads.not_directory.1, if_neg other]

end Command

end VmToolchain
