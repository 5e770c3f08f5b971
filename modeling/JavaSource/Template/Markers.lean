import JavaSource.Template.Action
import JavaSource.Template.Selector

/-!
# Markers

In a template, a marker is what stands between two delimiters.  Its body gives the code of an action and, behind a
colon, a selector; two slashes begin a comment.  A source text is divided into **pieces**: literal text and the bodies
of markers, in turn.  The division goes from left to right, each delimiter at its first occurrence.
-/

namespace JavaSource

/-- The delimiters of markers. -/
structure Markers where
  opening : Text := "\x7b\x7b"
  ending : Text := "\x7d\x7d"
deriving DecidableEq

/-- Why a template cannot be read.  Places are given by their first byte and their length in bytes. -/
inductive ParseError where
  | unterminated (start length : Nat) (ending : Text)
  | unknownAction (start length : Nat) (code : Text)
  | emptyMarkers
deriving DecidableEq

namespace ParseError

/-- The error as it is reported. -/
def diagnostic : ParseError → Diagnostic
  | .unterminated start length ending =>
    { code := "listing::parse::unterminated"
      message := "unterminated marker, expected '" ++ ending ++ "'"
      help := some ("close the marker with '" ++ ending ++ "'")
      labels := [⟨start, length, "marker opened here"⟩] }
  | .unknownAction start length code =>
    { code := "listing::parse::unknown_action"
      message := "unknown action code '" ++ code ++ "'"
      help := some "known codes are ¶ ; _ > < $ S L N T B and #path"
      labels := [⟨start, length, "no action for this code"⟩] }
  | .emptyMarkers =>
    { code := "listing::parse::markers", message := "marker delimiters must not be empty" }

/-- The code that no action has. -/
def unknownCode? : ParseError → Option Text
  | .unknownAction _ _ code => some code
  | _ => none

end ParseError

namespace Markers

/-- A delimiter is missing. -/
def isBlank (m : Markers) : Bool := m.opening.isEmpty || m.ending.isEmpty

/-- Delimiters that are not empty. -/
def make (opening ending : Text) : Except ParseError Markers :=
  let m : Markers := ⟨opening, ending⟩
  if m.isBlank then .error .emptyMarkers else .ok m

/-- A body between its delimiters. -/
def enclose (m : Markers) (body : Text) : Text := m.opening ++ body ++ m.ending

end Markers

/-! ## Pieces -/

/-- A piece of a source text. -/
inductive Piece where
  /-- Text outside of markers, possibly empty. -/
  | literal (t : Text)
  /-- What stands between two delimiters. -/
  | marker (body : Text)
  /-- What follows an opening delimiter that is never closed. -/
  | unclosed (rest : Text)
deriving DecidableEq

/-- Divides a source text into pieces. -/
def Markers.pieces (m : Markers) (h : m.opening ≠ []) (source : Text) : List Piece :=
  match _hopen : Text.cut? m.opening source with
  | none => [.literal source]
  | some (before, rest) =>
    match _hclose : Text.cut? m.ending rest with
    | none => [.literal before, .unclosed rest]
    | some (body, rest') => .literal before :: .marker body :: m.pieces h rest'
termination_by source.length
decreasing_by
  have h₁ := Text.length_of_cut? _hopen
  have h₂ := Text.length_of_cut? _hclose
  have h₃ := List.length_pos_iff.2 h
  omega

/-! ## Bodies -/

/-- What the body of a marker says. -/
structure MarkerBody where
  code : Text
  selector : Option Selector
  hasComment : Bool
deriving DecidableEq

namespace MarkerBody

/-- Splits what precedes the comment into code and selector. -/
def readCode (written : Text) : Text × Option Selector :=
  match Text.cut? ":" written with
  | some (code, selector) => (Text.trim code, Selector.parse? selector)
  | none => (Text.trim written, none)

/-- Reads the body of a marker. -/
def read (body : Text) : MarkerBody :=
  let (written, hasComment) :=
    match Text.cut? "//" body with
    | some (written, _) => (written, true)
    | none => (body, false)
  let (code, selector) := readCode written
  ⟨code, selector, hasComment⟩

/-- The marker is there for its comment only. -/
def isComment (b : MarkerBody) : Bool := b.code.isEmpty && b.hasComment

end MarkerBody

end JavaSource
