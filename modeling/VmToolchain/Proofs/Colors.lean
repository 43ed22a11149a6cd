import VmToolchain.Command.Run
import VmToolchain.Proofs.Display
import VmToolchain.Proofs.Session
import VmToolchain.Proofs.Text.Sequences

/-! Colours change how an output looks and nothing that it says. All that an output takes from modules
and expressions is free of escape characters by the time it is shown, and widths are counted before
the colours are put on; so without its sequences a coloured output is the plain one.
-/

namespace VmToolchain

open Text

-----------------------------------------------------------------------------------------
-- Listings
-----------------------------------------------------------------------------------------

theorem Constant.noControls_idText (id : Nat) : NoControls (idText id) :=
  noControls_append.mpr ⟨by decide, noControls_repr id⟩

section Listings

variable (palette : Palette)

theorem Chunk.uncolors_dumpLine (indexWidth index : Nat) (chunk : Chunk)
    : Uncolors (chunk.dumpLine palette indexWidth index)
        (chunk.dumpLine .plain indexWidth index) := by
  have position : Uncolors (padLeft '0' indexWidth index.repr) _ :=
    .of_noControls (noControls_padLeft (by decide) (noControls_repr index) indexWidth)
  have kind := palette.uncolors_kind (noControls_padRight chunk.kind.noControls_name 20)
  have length : Uncolors (padLeft ' ' 5 chunk.payload.length.repr) _ :=
    .of_noControls (noControls_padLeft (by decide) (noControls_repr chunk.payload.length) 5)
  have blanks : Uncolors "  " "  " := .of_plain (by decide)
  have bytes := (blanks.append (palette.uncolors_muted chunk.noControls_preview)).optional
    (chunk.payload.isEmpty = true)
  exact (((((position.append .blank).append kind).append .blank).append length).append
    bytes).append .feed

namespace ModuleFile

theorem uncolors_dumpHeader (file : ModuleFile)
    : Uncolors (file.dumpHeader palette) (file.dumpHeader .plain) := by
  have title : Uncolors (palette.kind "[header]") _ := palette.uncolors_kind (by decide)
  cases present : file.header? with
  | none =>
      simp only [dumpHeader, present]
      exact .of_plain (by decide)
  | some decoded =>
      cases decoded with
      | error error =>
          obtain ⟨payload, _, failed⟩ := Option.map_eq_some_iff.mp present
          have message : NoControls ("unreadable: " ++ error.message) :=
            noControls_append.mpr ⟨by decide, FileHeader.noControls_message_of_decode failed⟩
          simp only [dumpHeader, present]
          exact ((title.append .feed).append
            ((palette.uncolors_muted message).append .feed)).append .feed
      | ok header =>
          have magicName : Uncolors "magic   = " "magic   = " := .of_plain (by decide)
          have magic := palette.uncolors_value
            (noControls_quoted (String.ofList (header.magic.toList.map Char.ofUInt8)))
          have versionName : Uncolors "version = " "version = " := .of_plain (by decide)
          have version := palette.uncolors_value (noControls_repr header.version.toNat)
          simp only [dumpHeader, present]
          exact ((title.append .feed).append (((((magicName.append magic).append .feed).append
            versionName).append version).append .feed)).append .feed

theorem uncolors_dump (file : ModuleFile) : Uncolors (file.dump palette) (file.dump .plain) := by
  have title : Uncolors (palette.kind "[chunks]") _ := palette.uncolors_kind (by decide)
  have lines := Uncolors.join file.chunks.zipIdx (fun entry =>
    entry.1.uncolors_dumpLine palette (file.chunks.length - 1).repr.length entry.2)
  exact (((file.uncolors_dumpHeader palette).append title).append .feed).append lines

end ModuleFile

theorem ConstantPool.uncolors_dump (pool : ConstantPool)
    : Uncolors (pool.dump palette) (pool.dump .plain) := by
  have title : Uncolors (palette.kind "[constants]") _ := palette.uncolors_kind (by decide)
  have idText (id : Nat) := Uncolors.of_noControls
    (noControls_padRight (Constant.noControls_idText id) (pool.size.repr.length + 1))
  have lines := Uncolors.join pool.constants.toList.zipIdx (fun entry =>
    (((idText entry.2).append .blank).append
      (palette.uncolors_value entry.1.noControls_display)).append .feed)
  exact ((Uncolors.feed.append title).append .feed).append lines

/-- The outcome with a standard output that is not coloured. -/
def Outcome.uncolored (outcome : Outcome) : Outcome :=
  { outcome with stdout := Text.uncolored outcome.stdout }

namespace Command

/-- The listing with its constants, if there is one at all. -/
theorem uncolored_dumpText (options : DumpOptions) (bytes : List UInt8)
    : (dumpText options palette bytes).map uncolored = dumpText options .plain bytes := by
  have listing (file : ModuleFile) (pool : ConstantPool)
      : uncolored (file.dump palette ++ (if pool.size = 0 then "" else pool.dump palette))
        = file.dump .plain ++ (if pool.size = 0 then "" else pool.dump .plain) :=
    ((file.uncolors_dump palette).append ((pool.uncolors_dump palette).optional _)).eq
  unfold dumpText
  cases (ModuleFile.decode options.unknown bytes).mapError
      (CommandFailure.moduleFile options.path) with
  | error failure => rfl
  | ok file =>
      dsimp only [bind, Except.bind]
      cases (ConstantPool.ofModule file).mapError CommandFailure.pool with
      | error failure => rfl
      | ok pool => exact congrArg Except.ok (listing file pool)

/-- The dump command shows the same with and without colours, or fails for the same reason. -/
theorem uncolored_runDump {σ : Type} (files : FileAccess (StateM σ)) (terminal : Bool)
    (options : DumpOptions) (state : σ)
    : ((runDump files terminal options).run state).map Outcome.uncolored id
      = (runDump files terminal { options with color := .never }).run state := by
  have failed (failure : CommandFailure)
      : (Outcome.failure "" failure).uncolored = .failure "" failure := by
    have empty : uncolored "" = "" := (Uncolors.of_plain (by decide)).eq
    simp only [Outcome.uncolored, Outcome.failure, empty]
  unfold runDump
  rw [StateT.run_bind, StateT.run_bind]
  obtain ⟨contents, after⟩ := (files.read options.path).run state
  cases contents with
  | error error => exact congrArg (·, after) (failed _)
  | ok bytes =>
      have plain : dumpText { options with color := .never } (ColorChoice.never.palette terminal)
            bytes
          = (dumpText options (options.color.palette terminal) bytes).map uncolored :=
        (uncolored_dumpText _ options bytes).symm
      dsimp only [bind]
      rw [plain]
      cases dumpText options (options.color.palette terminal) bytes with
      | error failure => exact congrArg (·, after) (failed failure)
      | ok text => rfl

end Command

end Listings

-----------------------------------------------------------------------------------------
-- Traces
-----------------------------------------------------------------------------------------

theorem TracePrinter.uncolors_applicationLine (palette : Palette) (op : Operator)
    (operands : List TypedValue) (verdict : Category) (result : TypedValue)
    : Uncolors (applicationLine palette op operands verdict result)
        (applicationLine .plain op operands verdict result) := by
  have name := palette.uncolors_kind op.noControls_name
  have opening : Uncolors " (" " (" := .of_plain (by decide)
  have values : Uncolors (", ".intercalate (operands.map TypedValue.display)) _ :=
    .of_noControls (noControls_intercalate operands (by decide) TypedValue.noControls_display)
  have closing : Uncolors ") -> " ") -> " := .of_plain (by decide)
  have shown := palette.uncolors_value result.noControls_display
  have noted : NoControls ("(type rule: " ++ verdict.name ++ ")") := by
    simp +decide
  have note := (Uncolors.blank.append (palette.uncolors_muted noted)).optional
    (verdict = result.category)
  exact ((((name.append opening).append values).append closing).append shown).append note

namespace TraceEvent

variable (verbosity : Verbosity) (palette : Palette)

theorem uncolors_text (event : TraceEvent) : Uncolors (event.text palette) (event.text .plain) := by
  cases event with
  | enter op => exact (palette.uncolors_kind op.noControls_name).append (.of_plain (by decide))
  | leaf value => exact palette.uncolors_muted value.noControls_display
  | apply op operands verdict result =>
      exact TracePrinter.uncolors_applicationLine palette op operands verdict result
  | failure op error =>
      have line : NoControls (op.name ++ " failed: " ++ error.message) := by
        simp +decide [error.noControls_message]
      exact .of_noControls line

theorem uncolored_line? (depth : Nat) (event : TraceEvent)
    : (event.line? verbosity palette depth).map uncolored
      = event.line? verbosity .plain depth := by
  unfold line?
  split
  · rfl
  · have indent := Uncolors.of_noControls
      (noControls_repeated (c := ' ') (by decide) (2 * min depth (event.depthAfter depth)))
    exact congrArg some (indent.append (event.uncolors_text palette)).eq

end TraceEvent

namespace TracePrinter

theorem uncolored_linesOf (verbosity : Verbosity) (palette : Palette) (depth : Nat)
    (events : List TraceEvent)
    : (linesOf verbosity palette depth events).map uncolored
      = linesOf verbosity .plain depth events := by
  induction events generalizing depth with
  | nil => rfl
  | cons event rest ih =>
      rw [linesOf, linesOf, List.map_append, ih, ← event.uncolored_line? verbosity palette depth,
        Option.toList_map]

/-- The printer that shows the same without colours. -/
def uncolored (printer : TracePrinter) : TracePrinter :=
  { printer with palette := .plain, lines := printer.lines.map Text.uncolored }

/-- Without colours, the printer goes on to show what it would have shown in plain text. -/
theorem uncolored_handleAll (printer : TracePrinter) (events : List TraceEvent)
    : (printer.handleAll events).uncolored = printer.uncolored.handleAll events := by
  have lines := uncolored_linesOf printer.verbosity printer.palette printer.depth events
  simp [handleAll_eq, uncolored, ← lines]

end TracePrinter

namespace Session

/-- The session with a printer that shows the same without colours. -/
def uncolored (session : Session) : Session :=
  { session with printer := session.printer.map TracePrinter.uncolored }

theorem uncolored_callAll (session : Session) (calls : List SessionCall)
    : (session.callAll calls).map id uncolored = session.uncolored.callAll calls := by
  rw [callAll_eq, callAll_eq]
  simp [uncolored, TracePrinter.uncolored_handleAll, Function.comp_def]

end Session

-----------------------------------------------------------------------------------------
-- All that is coloured
-----------------------------------------------------------------------------------------

/-- Colours are presentation only. Once the sequences are deleted, the listing of any module is the plain
listing, and so is what the dump command shows, constants included, for any files and any choice of
colours; a printer, whatever it has shown and at whatever depth it stands, has shown any further events
as a plain one does, and so has the printer of a session after any calls.
-/
theorem colors_are_presentation_only
    : (∀ (palette : Palette) (file : ModuleFile),
        uncolored (file.dump palette) = file.dump .plain)
      ∧ (∀ (σ : Type) (files : FileAccess (StateM σ)) (terminal : Bool) (options : DumpOptions)
          (state : σ),
          ((Command.runDump files terminal options).run state).map Outcome.uncolored id
            = (Command.runDump files terminal { options with color := .never }).run state)
      ∧ (∀ (printer : TracePrinter) (events : List TraceEvent),
          (printer.handleAll events).uncolored = printer.uncolored.handleAll events)
      ∧ ∀ (session : Session) (calls : List SessionCall),
          (session.callAll calls).map id Session.uncolored = session.uncolored.callAll calls := by
  refine ⟨?_, ?_, TracePrinter.uncolored_handleAll, Session.uncolored_callAll⟩
  · intro palette file
    exact (file.uncolors_dump palette).eq
  · intro σ files terminal options state
    exact Command.uncolored_runDump files terminal options state

end VmToolchain
