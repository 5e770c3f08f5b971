import JavaSource.Text.Quoted

/-!
# Tags

Data attached to objects from the outside.  An object is known by a **handle**; a **tag** is a name together with the
type of the data that it stands for.  Tags of one name and different types are different tags, so a look-up always
answers with data of the type that was asked for.
-/

namespace JavaSource

/-- The types of tagged data. -/
inductive TagType where
  | text
  | int
  | bool
deriving DecidableEq

/-- The data of a type. -/
def TagType.Data : TagType → Type
  | .text => Text
  | .int => Int64
  | .bool => Bool

/-- A name for data of type `τ`. -/
structure Tag (τ : TagType) where
  name : Text

/-- A tag for diagnosis. -/
def Tag.quoted {τ : TagType} (t : Tag τ) : Text := Quoted.tuple "Tag" (Quoted.text t.name)

/-- Data under a handle and a tag. -/
structure TagEntry where
  handle : Nat
  name : Text
  type : TagType
  data : type.Data

/-- All attached data. -/
structure Tags where
  /-- How many handles have been issued. -/
  issued : Nat := 0
  entries : List TagEntry := []

namespace TagEntry

/-- The data of an entry, if the entry belongs to the handle and the tag. -/
def match? {τ : TagType} (handle : Nat) (tag : Tag τ) (e : TagEntry) : Option τ.Data :=
  if h : e.type = τ then
    if e.handle = handle ∧ e.name = tag.name then some (h ▸ e.data) else none
  else none

end TagEntry

namespace Tags

variable {τ : TagType}

/-- Issues a new handle. -/
def issue (t : Tags) : Nat × Tags := (t.issued, { t with issued := t.issued + 1 })

/-- The number of attached data. -/
def size (t : Tags) : Nat := t.entries.length

/-- Nothing is attached. -/
def isEmpty (t : Tags) : Bool := t.entries.isEmpty

/-- The data under a handle and a tag. -/
def get? (handle : Nat) (tag : Tag τ) (t : Tags) : Option τ.Data :=
  t.entries.findSome? (·.match? handle tag)

/-- Removes the data under a handle and a tag. -/
def erase (handle : Nat) (tag : Tag τ) (t : Tags) : Tags :=
  { t with entries := t.entries.filter fun e => (e.match? handle tag).isNone }

/-- Attaches data under a handle and a tag, in place of what was there. -/
def set (handle : Nat) (tag : Tag τ) (data : τ.Data) (t : Tags) : Tags :=
  let rest := t.erase handle tag
  { rest with entries := rest.entries ++ [⟨handle, tag.name, τ, data⟩] }

/-- Changes the data under a handle and a tag, if there are any. -/
def modify (handle : Nat) (tag : Tag τ) (f : τ.Data → τ.Data) (t : Tags) : Tags :=
  match t.get? handle tag with
  | some data => t.set handle tag (f data)
  | none => t

/-- Removes all data of a handle. -/
def release (handle : Nat) (t : Tags) : Tags :=
  { t with entries := t.entries.filter fun e => e.handle != handle }

/-- The table for diagnosis: its counts only. -/
def quoted (t : Tags) : Text :=
  Quoted.record "Tags" [
    Quoted.field "handles" (Decimal.ofNat t.issued), Quoted.field "values" (Decimal.ofNat t.size)]

end Tags

end JavaSource
