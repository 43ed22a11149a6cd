/-! Colours of listings, traces and messages, as ANSI sequences that surround the coloured text. -/

namespace VmToolchain

/-- Whether output is coloured. -/
structure Palette where
  enabled : Bool
deriving DecidableEq, Repr

namespace Palette

def plain : Palette := ⟨false⟩

def colored : Palette := ⟨true⟩

/-- The sequence that selects the graphic rendition with this number. -/
def sequence (palette : Palette) (code : String) : String :=
  if palette.enabled then "\x1b[" ++ code ++ "m" else ""

def reset (palette : Palette) : String := palette.sequence "0"

/-- Names of operators and chunks, and section titles. -/
def kind (palette : Palette) (text : String) : String :=
  palette.sequence "34" ++ text ++ palette.reset

def value (palette : Palette) (text : String) : String :=
  palette.sequence "32" ++ text ++ palette.reset

/-- The word that opens an error message. -/
def alarm (palette : Palette) (text : String) : String :=
  palette.sequence "1" ++ palette.sequence "31" ++ text ++ palette.reset

/-- Input that is refused. -/
def refused (palette : Palette) (text : String) : String :=
  palette.sequence "33" ++ text ++ palette.reset

/-- Words to be typed as they stand. -/
def verbatim (palette : Palette) (text : String) : String :=
  palette.sequence "1" ++ text ++ palette.reset

/-- Details that matter less. -/
def muted (palette : Palette) (text : String) : String :=
  palette.sequence "2" ++ text ++ palette.reset

end Palette

end VmToolchain
