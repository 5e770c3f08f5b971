import JavaSource.Json.Number

/-!
# Reading JSON

A reader takes what it needs from the front of the text and hands back the rest.  Containers may be nested up to a
fixed depth.  The fields of an object are sorted by key; of two fields with the same key the last one counts.

Every reader of a nested value consumes at least one character, so the length of the text bounds the recursion.
-/

namespace JavaSource.Json

/-- How deep containers may be nested. -/
def maxDepth : Nat := 127

/-- The four characters that may stand between tokens. -/
def isSpace (c : Char) : Bool := c == ' ' || c == '\t' || c == '\n' || c == '\r'

/-- The text without leading space. -/
def skipSpace (t : Text) : Text := t.dropWhile isSpace

/-! ## Numbers -/

/-- The leading digits, and the rest. -/
def spanDigits (t : Text) : Text × Text := t.span Char.isDigit

/-- Digits, at least one. -/
def readDigits (t : Text) : Option (Text × Text) :=
  let (digits, rest) := spanDigits t
  if digits.isEmpty then none else some (digits, rest)

/-- Digits without a superfluous zero in front. -/
def readWhole (t : Text) : Option (Text × Text) :=
  match readDigits t with
  | some ('0' :: _ :: _, _) => none
  | result => result

/-- An optional fraction. -/
def readFraction : Text → Option (Text × Text)
  | '.' :: t => readDigits t
  | t => some ([], t)

/-- The sign of an exponent: whether it is negative. -/
def readExponentSign : Text → Bool × Text
  | '-' :: t => (true, t)
  | '+' :: t => (false, t)
  | t => (false, t)

/-- An optional exponent. -/
def readExponent (t : Text) : Option (Option (Bool × Text) × Text) :=
  match t with
  | c :: rest =>
    if c = 'e' ∨ c = 'E' then
      let (negative, rest) := readExponentSign rest
      (readDigits rest).map fun (digits, rest) => (some (negative, digits), rest)
    else some (none, t)
  | [] => some (none, t)

/-- A number, whose sign has been read. -/
def readNumber (negative : Bool) (t : Text) : Option (Json × Text) :=
  match readWhole t with
  | none => none
  | some (whole, t) =>
    match readFraction t with
    | none => none
    | some (fraction, t) =>
      match readExponent t with
      | none => none
      | some (exponent, t) =>
        (Spelling.value? ⟨negative, whole, fraction, exponent⟩).map fun j => (j, t)

/-! ## Strings -/

/-- The value of a hexadecimal digit. -/
def hexDigit? (c : Char) : Option Nat :=
  if c.isDigit then some (c.toNat - '0'.toNat)
  else if 'a' ≤ c ∧ c ≤ 'f' then some (c.toNat - 'a'.toNat + 10)
  else if 'A' ≤ c ∧ c ≤ 'F' then some (c.toNat - 'A'.toNat + 10)
  else none

/-- A number of exactly `width` hexadecimal digits, after `n`. -/
def readHex : (width n : Nat) → Text → Option (Nat × Text)
  | 0, n, t => some (n, t)
  | _ + 1, _, [] => none
  | width + 1, n, c :: t =>
    match hexDigit? c with
    | some d => readHex width (16 * n + d) t
    | none => none

/-- The second half of a surrogate pair. -/
def readLowSurrogate : Text → Option (Nat × Text)
  | '\\' :: 'u' :: t =>
    match readHex 4 0 t with
    | some (n, rest) => if 0xDC00 ≤ n && n ≤ 0xDFFF then some (n - 0xDC00, rest) else none
    | none => none
  | _ => none

/-- A character given by its code point; outside of the basic plane it takes a surrogate pair. -/
def readCodePoint (t : Text) : Option (Char × Text) :=
  match readHex 4 0 t with
  | none => none
  | some (n, rest) =>
    if n < 0xD800 || 0xDFFF < n then some (Char.ofNat n, rest)
    else if 0xDBFF < n then none
    else
      (readLowSurrogate rest).map fun (low, rest) =>
        (Char.ofNat (0x10000 + 0x400 * (n - 0xD800) + low), rest)

/-- What a letter stands for behind a backslash. -/
def unescape? : Char → Option Char
  | '"' => some '"'
  | '\\' => some '\\'
  | '/' => some '/'
  | 'b' => some '\x08'
  | 'f' => some '\x0c'
  | 'n' => some '\n'
  | 'r' => some '\r'
  | 't' => some '\t'
  | _ => none

/-- A string whose opening mark has been read. -/
def readString : (fuel : Nat) → Text → Option (Text × Text)
  | 0, _ => none
  | _ + 1, [] => none
  | fuel + 1, c :: t =>
    if c = '"' then some ([], t)
    else if c = '\\' then
      match t with
      | [] => none
      | 'u' :: t =>
        match readCodePoint t with
        | some (d, t) => (readString fuel t).map fun (s, rest) => (d :: s, rest)
        | none => none
      | e :: t =>
        match unescape? e with
        | some d => (readString fuel t).map fun (s, rest) => (d :: s, rest)
        | none => none
    else if c.toNat < 0x20 then none
    else (readString fuel t).map fun (s, rest) => (c :: s, rest)

/-! ## Objects -/

/-- Puts a field in its place by the order of keys; a field with the same key is replaced. -/
def putField (key : Text) (j : Json) : List (Text × Json) → List (Text × Json)
  | [] => [(key, j)]
  | (k, i) :: rest =>
    match Text.compare key k with
    | .lt => (key, j) :: (k, i) :: rest
    | .eq => (key, j) :: rest
    | .gt => (k, i) :: putField key j rest

/-- The object of the given fields. -/
def ofFields (fields : List (Text × Json)) : Json :=
  .object (fields.foldl (fun sorted (key, j) => putField key j sorted) [])

/-! ## Values -/

/-- A key, up to its colon. -/
def readKey (t : Text) : Option (Text × Text) :=
  match skipSpace t with
  | '"' :: t =>
    match readString (t.length + 1) t with
    | some (key, t) =>
      match skipSpace t with
      | ':' :: t => some (key, t)
      | _ => none
    | none => none
  | _ => none

/-- One of the three words, if the text begins with it. -/
def readWord (t : Text) : Option (Json × Text) :=
  match Text.after? "null" t, Text.after? "true" t, Text.after? "false" t with
  | some rest, _, _ => some (.null, rest)
  | _, some rest, _ => some (.bool true, rest)
  | _, _, some rest => some (.bool false, rest)
  | none, none, none => none

mutual

/-- A value, with `depth` more levels of nesting allowed. -/
def readValue (depth : Nat) : (fuel : Nat) → Text → Option (Json × Text)
  | 0, _ => none
  | fuel + 1, t =>
    match skipSpace t with
    | [] => none
    | '"' :: t => (readString (t.length + 1) t).map fun (s, rest) => (.string s, rest)
    | '-' :: t => readNumber true t
    | '[' :: t =>
      if depth = 0 then none
      else
        match skipSpace t with
        | ']' :: rest => some (.array [], rest)
        | t => (readItems (depth - 1) fuel t).map fun (items, rest) => (.array items, rest)
    | '\x7b' :: t =>
      if depth = 0 then none
      else
        match skipSpace t with
        | '\x7d' :: rest => some (.object [], rest)
        | t => (readFields (depth - 1) fuel t).map fun (fields, rest) => (ofFields fields, rest)
    | c :: t => if c.isDigit then readNumber false (c :: t) else readWord (c :: t)

/-- The items of an array, up to its end. -/
def readItems (depth : Nat) : (fuel : Nat) → Text → Option (List Json × Text)
  | 0, _ => none
  | fuel + 1, t =>
    match readValue depth fuel t with
    | none => none
    | some (j, t) =>
      match skipSpace t with
      | ']' :: rest => some ([j], rest)
      | ',' :: t => (readItems depth fuel t).map fun (items, rest) => (j :: items, rest)
      | _ => none

/-- The fields of an object, up to its end. -/
def readFields (depth : Nat) : (fuel : Nat) → Text → Option (List (Text × Json) × Text)
  | 0, _ => none
  | fuel + 1, t =>
    match readKey t with
    | none => none
    | some (key, t) =>
      match readValue depth fuel t with
      | none => none
      | some (j, t) =>
        match skipSpace t with
        | '\x7d' :: rest => some ([(key, j)], rest)
        | ',' :: t => (readFields depth fuel t).map fun (fields, rest) => ((key, j) :: fields, rest)
        | _ => none

end

/-- Reads a text that holds one value and nothing else. -/
def parse? (t : Text) : Option Json :=
  match readValue maxDepth (2 * t.length + 2) t with
  | some (j, rest) => if (skipSpace rest).isEmpty then some j else none
  | none => none

end JavaSource.Json
