import JavaSource.Listing.Basic

/-!
# Fragments

A **fragment** is a piece of source as data: text, names, line breaks, indentation and blocks, put together in
sequence.  Emitting it appends it to a listing; since names are kept as names, the same fragment can be emitted
under different policies.
-/

namespace JavaSource

/-- A piece of source text. -/
inductive Fragment where
  | empty
  | text (t : Text)
  | name (n : Name)
  | newline
  | indent (delta : Int)
  | block (header : Text) (body : List Fragment) (close : Option Text)
  | sequence (parts : List Fragment)

namespace Fragment

/-- A single space. -/
def space : Fragment := .text " "

/-- A text on a line of its own. -/
def line (t : Text) : Fragment := .sequence [.text t, .newline]

/-- Completes a block: the closing text on a line of its own, if there is one. -/
def close : Option Text → Listing → Listing
  | none, l => l
  | some t, l => (l.appendText t).newline

mutual

/-- Appends the fragment to a listing.  The body of a block stands one level deeper than its header. -/
def emit : Fragment → Listing → Listing
  | .empty, l => l
  | .text t, l => l.appendText t
  | .name n, l => l.appendName n
  | .newline, l => l.newline
  | .indent delta, l => l.shift delta
  | .block header body closing, l =>
    close closing ((emitAll body (((l.appendText header).newline).shift 1)).shift (-1))
  | .sequence parts, l => emitAll parts l

/-- Appends fragments one after the other. -/
def emitAll : List Fragment → Listing → Listing
  | [], l => l
  | f :: rest, l => emitAll rest (emit f l)

end

/-- The listing of a fragment on its own, with names in full. -/
def render (f : Fragment) : Listing := f.emit {}

/-- The text of a fragment on its own, with names in full. -/
def list (f : Fragment) : Text := f.render.text

end Fragment

end JavaSource
