import JavaSource.Value.Writing

/-!
# Actions

What a marker does is given by a short code: a line break, a change of indentation, or a value written in one of
several ways.  `Action.ofCode?` and `Action.code` translate between codes and actions; `Action.execute` carries an
action out on a listing.
-/

namespace JavaSource

/-- How much an action takes from the values of a template. -/
inductive Arity where
  /-- Nothing. -/
  | none
  /-- Nothing but the code itself. -/
  | tag
  /-- One value. -/
  | arg
  /-- One value, together with the path in the code. -/
  | all
deriving DecidableEq

namespace Arity

/-- The action takes a value. -/
def consumes : Arity → Bool
  | .none => false
  | .tag => false
  | .arg => true
  | .all => true

/-- The name of the arity. -/
def text : Arity → Text
  | .none => "none"
  | .tag => "tag"
  | .arg => "arg"
  | .all => "all"

end Arity

/-- What a marker does. -/
inductive Action where
  /-- Completes the line. -/
  | newline
  /-- Completes a statement and the line. -/
  | closeStatement
  /-- Writes a space. -/
  | space
  /-- Indents by a number of levels. -/
  | indent (count : Nat)
  /-- Dedents by a number of levels. -/
  | dedent (count : Nat)
  /-- Writes the raw text of the value. -/
  | raw
  /-- Writes the value as a string literal. -/
  | literal
  /-- Writes the value as a fragment. -/
  | fragment
  /-- Writes the name that the value denotes. -/
  | name
  /-- Writes the type that the value denotes. -/
  | type
  /-- Writes the binary name of the value. -/
  | binary
  /-- Follows a path of members and writes what it leads to. -/
  | chain (path : Text)
deriving DecidableEq

namespace Action

/-- What the action takes from the values. -/
def arity : Action → Arity
  | .newline | .closeStatement | .space => .none
  | .indent _ | .dedent _ => .tag
  | .raw | .literal | .fragment | .name | .type | .binary => .arg
  | .chain _ => .all

/-- The action takes a value. -/
def consumes (a : Action) : Bool := a.arity.consumes

/-! ## Codes -/

/-- The code of an action. -/
def code : Action → Text
  | .newline => "¶"
  | .closeStatement => ";"
  | .space => "_"
  | .indent count => List.replicate count '>'
  | .dedent count => List.replicate count '<'
  | .raw => "$"
  | .literal => "S"
  | .fragment => "L"
  | .name => "N"
  | .type => "T"
  | .binary => "B"
  | .chain path => '#' :: path

/-- The actions whose code is a single fixed character. -/
def fixed : List Action :=
  [.newline, .closeStatement, .space, .raw, .literal, .fragment, .name, .type, .binary]

/-- The code is a number of characters `c`, and nothing else. -/
def isRepeated (c : Char) (code : Text) : Bool := !code.isEmpty && code.all (· == c)

/-- The path has segments, and each is neither empty nor has a blank in it. -/
def isPath (path : Text) : Bool :=
  (path.splitOn '.').all fun segment => !segment.isEmpty && !segment.any Unicode.isBlank

/-- The action of a code without a fixed action. -/
def ofVariableCode? (code : Text) : Option Action :=
  if isRepeated '>' code then some (.indent code.length)
  else if isRepeated '<' code then some (.dedent code.length)
  else
    match code with
    | '#' :: path => if isPath path then some (.chain path) else none
    | _ => none

/-- The action of a code. -/
def ofCode? (code : Text) : Option Action :=
  match fixed.find? fun a => a.code == code with
  | some a => some a
  | none => ofVariableCode? code

/-- An entry of the table of actions. -/
structure Spec where
  code : Text
  arity : Arity
  summary : Text

/-- The table of actions, for explanation. -/
def specs : List Spec := [
  ⟨"¶", .none, "line break"⟩,
  ⟨";", .none, "close statement: ';' and a line break"⟩,
  ⟨"_", .none, "single space"⟩,
  ⟨">...", .tag, "indent by the number of '>'"⟩,
  ⟨"<...", .tag, "dedent by the number of '<'"⟩,
  ⟨"$", .arg, "raw text of the value"⟩,
  ⟨"S", .arg, "string literal of the value, null stays null"⟩,
  ⟨"L", .arg, "fragment: listables, names and types, otherwise raw text"⟩,
  ⟨"N", .arg, "qualified name, shortened by the name policy"⟩,
  ⟨"T", .arg, "type reference"⟩,
  ⟨"B", .arg, "binary name, never shortened"⟩,
  ⟨"#path", .all, "value of a dotted accessor chain"⟩]

/-! ## Execution -/

/-- The change of depth for `count` levels inwards. -/
def inwards (count : Nat) : Int := min (count : Int) 0x7FFFFFFFFFFFFFFF

/-- The change of depth for `count` levels outwards. -/
def outwards (count : Nat) : Int := if count < 0x8000000000000000 then -(count : Int) else -0x8000000000000000

/-- What an action without a value does. -/
def executeFixed (a : Action) (l : Listing) : Listing :=
  match a with
  | .newline => l.newline
  | .closeStatement => (l.appendChar ';').newline
  | .space => l.appendChar ' '
  | .indent count => l.shift (inwards count)
  | .dedent count => l.shift (outwards count)
  | _ => l

/-- Writes a value as a type, or else the class that it names. -/
def renderType : Value → Writing Unit
  | .type t => modify t.fragment.emit
  | v => do
    let n ← v.toName "T"
    modify (TypeExpr.ofName n).fragment.emit

/-- Writes a value as the action says. -/
def render (v : Value) : Action → Writing Unit
  | .raw => do
    let t ← v.raw
    modify fun l => l.appendText t
  | .literal => do
    let t ← v.literal
    modify fun l => l.appendText t
  | .fragment => v.renderInto
  | .name => do
    let n ← v.toName "N"
    modify fun l => l.appendName n
  | .type => renderType v
  | .binary => do
    let n ← v.toName "B"
    modify fun l => l.appendText n.binary
  | .chain path => do
    let w ← v.walk path
    w.renderInto
  | a => modify a.executeFixed

/-- The steps of an action.  An action that takes a value needs one; an action that does not ignores it. -/
def steps (a : Action) (v : Option Value) : Writing Unit :=
  if a.consumes then
    match v with
    | none => throw (.missingArgument a.code)
    | some v => a.render v
  else modify a.executeFixed

/-- Carries out an action on a listing. -/
def execute (a : Action) (v : Option Value) (l : Listing) : Written := (a.steps v).into l

end Action

end JavaSource
