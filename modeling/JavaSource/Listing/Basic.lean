import JavaSource.Decimal.Integer
import JavaSource.Listing.Indent
import JavaSource.Name.Style

/-!
# Listings

A **listing** is the buffer that generated source is appended to.  It holds the completed lines, the line being
written, the depth of indentation, and a log of all names that were appended, in order.

Two rules give the output its shape.  Indentation is added when a line is completed, and only to a line that is
not empty.  And a blank line is never followed by another one: completing an empty line after an empty line
changes nothing.
-/

namespace JavaSource

/-- Text under construction. -/
structure Listing where
  /-- One level of indentation. -/
  indent : Indent := .java
  /-- How appended names are written. -/
  policy : Policy := .canonical
  /-- Completed lines, with their indentation. -/
  lines : List Text := []
  /-- The line being written, without its indentation. -/
  line : Text := []
  /-- Levels of indentation. -/
  depth : Nat := 0
  /-- Every name appended so far. -/
  names : List Name := []

namespace Listing

/-- An empty listing that writes names in full. -/
def withIndent (indent : Indent) : Listing := { indent }

/-- The listing with another policy for the names to come. -/
def withPolicy (policy : Policy) (l : Listing) : Listing := { l with policy }

/-- Nothing has been written. -/
def isEmpty (l : Listing) : Bool := l.lines.isEmpty && l.line.isEmpty

/-- The line being written, with its indentation. -/
def indented (l : Listing) : Text := l.indent.levels l.depth ++ l.line

/-- Completes the line.  An empty line after an empty line is left out. -/
def newline (l : Listing) : Listing :=
  if l.line.isEmpty then
    if l.lines.getLast? = some [] then l else { l with lines := l.lines ++ [[]] }
  else { l with lines := l.lines ++ [l.indented], line := [] }

/-- Appends text without line breaks to the line. -/
def push (t : Text) (l : Listing) : Listing := { l with line := l.line ++ t }

/-- Appends one character; a line feed completes the line. -/
def appendChar (c : Char) (l : Listing) : Listing := if c = '\n' then l.newline else l.push [c]

/-- Appends text; every line feed in it completes a line. -/
def appendText (t : Text) (l : Listing) : Listing :=
  match t.splitOn '\n' with
  | [] => l
  | first :: rest => rest.foldl (fun l part => l.newline.push part) (l.push first)

/-- A depth moved by `delta`, kept between zero and the largest machine word. -/
def shiftDepth (depth : Nat) (delta : Int) : Nat := min (depth + delta).toNat Decimal.maxWord

/-- Moves the depth of indentation. -/
def shift (delta : Int) (l : Listing) : Listing := { l with depth := shiftDepth l.depth delta }

/-- Appends a name in the style that the policy chooses, and logs it. -/
def appendName (n : Name) (l : Listing) : Listing :=
  { l with line := l.line ++ (l.policy n).apply n, names := l.names ++ [n] }

/-- The listing with an empty log. -/
def drained (l : Listing) : Listing := { l with names := [] }

/-- All that was written: the completed lines, and the line being written unless it is empty. -/
def text (l : Listing) : Text :=
  l.lines.flatMap (fun line => line ++ ['\n']) ++ if l.line.isEmpty then [] else l.indented

end Listing

end JavaSource
