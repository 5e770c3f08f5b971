import JavaSource.Value.Basic

/-!
# Writing values

What is written into a listing may turn out to be impossible halfway: a class may have no name, or an object no text.
A **writing** is a step that goes on from a listing and either comes to its end or stops with an error; either way it
hands on the listing as it stands then, and nothing takes back what was written before an error.

`Value.renderInto` writes a value.  `Value.toFragment` is what it writes, kept as a fragment.
-/

namespace JavaSource

/-- A listing after something was written into it, and the error if it could not be written. -/
structure Written where
  listing : Listing
  error? : Option EvalError := none

/-- The listing, or the error. -/
def Written.toExcept (w : Written) : Except EvalError Listing :=
  match w.error? with
  | some e => .error e
  | none => .ok w.listing

/-- A step that writes into a listing and may stop with an error. -/
abbrev Writing := ExceptT EvalError (StateM Listing)

/-- Carries out a writing. -/
def Writing.into (x : Writing Unit) (l : Listing) : Written :=
  match x.run.run l with
  | (.ok _, l) => ⟨l, none⟩
  | (.error e, l) => ⟨l, some e⟩

namespace Value

mutual

/-- Writes a value: names in the style that the policy chooses, types and fragments with their parts, an object by its
`toString`, and anything else as text. -/
def renderInto : Value → Writing Unit
  | .name n => modify fun l => l.appendName n
  | .type t => modify t.fragment.emit
  | .classRef c => do
    let n ← c.qualifiedName.mapError EvalError.name
    modify fun l => l.appendName n
  | .fragment f => modify f.emit
  | .object c accessor => renderAnswer c (accessor "toString")
  | v => modify fun l => l.appendText v.display

/-- Writes what an object of the class `c` answers for its `toString`, which must not be an object again. -/
def renderAnswer (c : ClassRef) : Option Value → Writing Unit
  | none => throw (.notRenderable c.canonicalName)
  | some (.object _ _) => throw (.notRenderable c.canonicalName)
  | some v => v.renderInto

end

/-- The value as a fragment: names and types are kept as such, anything else becomes text. -/
def toFragment (v : Value) : Except EvalError Fragment :=
  match v.represented with
  | .error e => .error e
  | .ok (.name n) => .ok (.name n)
  | .ok (.type t) => .ok t.fragment
  | .ok (.classRef c) => (c.qualifiedName.mapError .name).map .name
  | .ok (.fragment f) => .ok f
  | .ok w => .ok (.text w.display)

end Value

end JavaSource
