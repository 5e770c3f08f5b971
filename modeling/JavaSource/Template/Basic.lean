import JavaSource.Import.Resolver
import JavaSource.Template.Bindings
import JavaSource.Template.Markers

/-!
# Templates

A **template** is a sequence of instructions: literal text, and markers that act on a listing.  `Template.parse` reads
it from its source; `Template.evaluate` fills it with values.

Values are handed out from left to right: a marker that takes a value and does not say which one gets the value at the
next position.  An error ends the evaluation; what was written before it stays.
-/

namespace JavaSource

/-- A marker that acts. -/
structure Marker where
  action : Action
  /-- The marker as it stands in the source, with its delimiters. -/
  text : Text
  selector : Option Selector
  /-- The first byte of the marker in the source. -/
  start : Nat
  /-- The first byte after the marker. -/
  stop : Nat
deriving DecidableEq

/-- A step of a template. -/
inductive Instruction where
  | text (t : Text)
  | marker (m : Marker)
deriving DecidableEq

/-- A sequence of instructions. -/
structure Template where
  instructions : List Instruction
deriving DecidableEq

namespace Template

/-! ## Reading -/

/-- The instruction of the marker with the given body, which begins at byte `start`; a marker with nothing but a comment
is none. -/
def readMarker (m : Markers) (start : Nat) (body : Text) : Except ParseError (Option Instruction) :=
  let b := MarkerBody.read body
  let text := m.enclose body
  if b.isComment then .ok none
  else
    match Action.ofCode? b.code with
    | none => .error (.unknownAction start (Text.byteLength text) b.code)
    | some action =>
      .ok (some (.marker ⟨action, text, b.selector, start, start + Text.byteLength text⟩))

/-- The instructions of pieces of which the first begins at byte `start`. -/
def readPieces (m : Markers) : (start : Nat) → List Piece → Except ParseError (List Instruction)
  | _, [] => .ok []
  | start, .literal t :: rest =>
    match readPieces m (start + Text.byteLength t) rest with
    | .error e => .error e
    | .ok instructions => .ok (if t.isEmpty then instructions else .text t :: instructions)
  | start, .marker body :: rest =>
    match readMarker m start body with
    | .error e => .error e
    | .ok instruction =>
      match readPieces m (start + Text.byteLength (m.enclose body)) rest with
      | .error e => .error e
      | .ok instructions => .ok (instruction.toList ++ instructions)
  | start, .unclosed t :: _ =>
    .error (.unterminated start (Text.byteLength (m.opening ++ t)) m.ending)

/-- Reads a template. -/
def parse (source : Text) (m : Markers) : Except ParseError Template :=
  if h : m.opening = [] then .error .emptyMarkers
  else if m.ending = [] then .error .emptyMarkers
  else (readPieces m 0 (m.pieces h source)).map Template.mk

/-! ## Evaluation -/

/-- The value for a marker, and the next free position after it. -/
def argument (b : Bindings) (next : Nat) (m : Marker) : Except EvalError (Option Value × Nat) :=
  if m.action.consumes then
    match m.selector with
    | some s => (b.select s).map fun v => (some v, next)
    | none => (b.select (.index next)).map fun v => (some v, next + 1)
  else .ok (none, next)

/-- Carries out instructions, where `next` is the next free position. -/
def run (b : Bindings) : (next : Nat) → List Instruction → Listing → Written
  | _, [], l => ⟨l, none⟩
  | next, .text t :: rest, l => run b next rest (l.appendText t)
  | next, .marker m :: rest, l =>
    match argument b next m with
    | .error e => ⟨l, some e⟩
    | .ok (v, next) =>
      match m.action.execute v l with
      | ⟨l, some e⟩ => ⟨l, some e⟩
      | ⟨l, none⟩ => run b next rest l

/-- Writes the filled template into a listing. -/
def evaluate (t : Template) (b : Bindings) (l : Listing) : Written := run b 0 t.instructions l

/-- The text of the filled template, with names in full. -/
def render (t : Template) (b : Bindings) : Except EvalError Text :=
  (t.evaluate b {}).toExcept.map Listing.text

/-- The filled template, with names shortened and imports chosen. -/
def resolve (t : Template) (r : Resolver) (b : Bindings) : Except EvalError Resolution :=
  r.resolveWith fun l => (t.evaluate b l).toExcept

/-- The instruction takes a value and does not say which one. -/
def isImplicit : Instruction → Bool
  | .text _ => false
  | .marker m => m.action.consumes && m.selector.isNone

/-- How many values are handed out by position. -/
def implicitArguments (t : Template) : Nat := t.instructions.countP isImplicit

end Template

end JavaSource
