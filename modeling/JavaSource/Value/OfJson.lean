import JavaSource.Json.Reader
import JavaSource.Template.Bindings

/-!
# Values from JSON

Plain JSON values become plain values; arrays and objects become objects of the classes `java.util.List` and
`java.util.Map`.  Their accessors answer the items by their index and the fields by their key, beside a size and a text.
A field hides an accessor of the same name.
-/

namespace JavaSource.Json

/-- The class of arrays. -/
def listClass : ClassRef := ⟨"java.util", "List"⟩

/-- The class of objects. -/
def mapClass : ClassRef := ⟨"java.util", "Map"⟩

/-- An integer as the smallest kind of number that holds it. -/
def intValue (n : Int) : Value :=
  if Decimal.isInt n then .int (Int32.ofInt n)
  else if Decimal.isLong n then .long (Int64.ofInt n)
  else .double (Float.ofInt n)

/-- What an array answers when asked for a member. -/
def listAccessor (items : List Value) (text member : Text) : Option Value :=
  if member = "size" ∨ member = "length" then Value.ofCount? items.length
  else if member = "toString" then some (.text text)
  else (Decimal.readWord? member).bind fun i => items[i]?

/-- What an object answers when asked for a member. -/
def mapAccessor (fields : List (Text × Value)) (text member : Text) : Option Value :=
  match fields.lookup member with
  | some v => some v
  | none =>
    if member = "size" then Value.ofCount? fields.length
    else if member = "toString" then some (.text text)
    else none

mutual

/-- The value of a JSON value. -/
def toValue : Json → Value
  | .null => .null
  | .bool b => .bool b
  | .int n => intValue n
  | .double d => .double d
  | .string t => .text t
  | .array items => .object listClass (listAccessor (toValues items) (compact (.array items)))
  | .object fields => .object mapClass (mapAccessor (fieldValues fields) (compact (.object fields)))

/-- The values of the items of an array. -/
def toValues : List Json → List Value
  | [] => []
  | j :: rest => toValue j :: toValues rest

/-- The values of the fields of an object. -/
def fieldValues : List (Text × Json) → List (Text × Value)
  | [] => []
  | (key, j) :: rest => (key, toValue j) :: fieldValues rest

end

/-- The bindings of a JSON value: an array binds positions, an object binds keys. -/
def bindings? : Json → Option Bindings
  | .array items => some (.ofList (toValues items))
  | .object fields => some (.ofPairs (fieldValues fields))
  | _ => none

end JavaSource.Json
