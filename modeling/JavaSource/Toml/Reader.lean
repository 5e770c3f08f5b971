import JavaSource.Toml.Scalar

/-!
# Reading settings files

The grammar is line by line: a header, a key with its value, or nothing, each perhaps followed by a comment.  Strings
come in four forms: quoted or literal, on one line or on several.  Inside brackets and braces, lines may end between any
two tokens.
-/

namespace JavaSource.Toml

/-- Arrays and inline tables are nested at most so deep, and a dotted key has at most so many parts. -/
def maxDepth : Nat := 80

/-! ## Blanks, comments and line ends -/

/-- The character may stand in a comment or in a string: any but the controls, tabs apart. -/
def isPlain (c : Char) : Bool := c == '\t' || (0x20 ≤ c.toNat && c.toNat != 0x7F)

/-- The text without a comment at its front. -/
def skipComment : Text → Text
  | '#' :: t => t.dropWhile isPlain
  | t => t

/-- What follows a line break at the front of the text. -/
def lineBreak? : Text → Option Text
  | '\n' :: t => some t
  | '\r' :: '\n' :: t => some t
  | _ => none

/-- What follows the end of a line, past blanks and a comment. -/
def lineEnd? (t : Text) : Option Text :=
  match skipComment (skipSpace t) with
  | [] => some []
  | t => lineBreak? t

/-- The text without leading blanks, comments and line breaks. -/
def skipLines : (fuel : Nat) → Text → Text
  | 0, t => t
  | fuel + 1, t =>
    let t := skipComment (skipSpace t)
    match lineBreak? t with
    | some rest => skipLines fuel rest
    | none => t

/-! ## Strings -/

/-- What a letter stands for behind a backslash. -/
def unescape? : Char → Option Char
  | '"' => some '"'
  | '\\' => some '\\'
  | 'b' => some '\x08'
  | 'e' => some '\x1b'
  | 'f' => some '\x0c'
  | 'n' => some '\n'
  | 'r' => some '\r'
  | 't' => some '\t'
  | _ => none

/-- A character given by its code point. -/
def readCodePoint (width : Nat) (t : Text) : Option (Char × Text) :=
  match Json.readHex width 0 t with
  | some (n, rest) =>
    if n < 0xD800 || (0xDFFF < n && n < 0x110000) then some (Char.ofNat n, rest) else none
  | none => none

/-- What stands behind a backslash. -/
def readEscape : Text → Option (Char × Text)
  | [] => none
  | 'x' :: t => readCodePoint 2 t
  | 'u' :: t => readCodePoint 4 t
  | 'U' :: t => readCodePoint 8 t
  | c :: t => (unescape? c).map fun d => (d, t)

/-- A quoted string on one line, past its opening mark. -/
def readQuoted : (fuel : Nat) → Text → Option (Text × Text)
  | 0, _ => none
  | _ + 1, [] => none
  | _ + 1, '"' :: t => some ([], t)
  | fuel + 1, '\\' :: t =>
    match readEscape t with
    | some (c, t) => (readQuoted fuel t).map fun (s, rest) => (c :: s, rest)
    | none => none
  | fuel + 1, c :: t =>
    if isPlain c then (readQuoted fuel t).map fun (s, rest) => (c :: s, rest) else none

/-- A literal string on one line, past its opening mark. -/
def readLiteral : Text → Option (Text × Text)
  | [] => none
  | '\'' :: t => some ([], t)
  | c :: t => if isPlain c then (readLiteral t).map fun (s, rest) => (c :: s, rest) else none

/-- The text without a line break at its front. -/
def dropLineBreak (t : Text) : Text := (lineBreak? t).getD t

/-- The end of a string on several lines: three marks, before which up to two more belong to the string. -/
def closing? (mark : Char) (t : Text) : Option (Text × Text) :=
  let marks := t.takeWhile (· == mark)
  if marks.length < 3 then none
  else
    let kept := min (marks.length - 3) 2
    some (List.replicate kept mark, t.drop (kept + 3))

/-- A line break or a plain character inside a string on several lines. -/
def readLineCharacter : Text → Option (Text × Text)
  | [] => none
  | '\n' :: t => some (['\n'], t)
  | '\r' :: '\n' :: t => some (['\r', '\n'], t)
  | c :: t => if isPlain c then some ([c], t) else none

/-- The text without leading blanks and line breaks. -/
def skipBlankLines : Text → Text
  | [] => []
  | '\r' :: '\n' :: t => skipBlankLines t
  | c :: t => if isSpace c || c == '\n' then skipBlankLines t else c :: t

/-- What follows a backslash at the end of a line: all blanks and line breaks after it are left out. -/
def continuation? (t : Text) : Option Text := (lineBreak? (skipSpace t)).map skipBlankLines

/-- A quoted string on several lines, past its opening marks. -/
def readQuotedLines : (fuel : Nat) → Text → Option (Text × Text)
  | 0, _ => none
  | fuel + 1, t =>
    match closing? '"' t with
    | some result => some result
    | none =>
      match t with
      | '\\' :: t =>
        match continuation? t with
        | some t => readQuotedLines fuel t
        | none =>
          match readEscape t with
          | some (c, t) => (readQuotedLines fuel t).map fun (s, rest) => (c :: s, rest)
          | none => none
      | t =>
        match readLineCharacter t with
        | some (cs, t) => (readQuotedLines fuel t).map fun (s, rest) => (cs ++ s, rest)
        | none => none

/-- A literal string on several lines, past its opening marks. -/
def readLiteralLines : (fuel : Nat) → Text → Option (Text × Text)
  | 0, _ => none
  | fuel + 1, t =>
    match closing? '\'' t with
    | some result => some result
    | none =>
      match readLineCharacter t with
      | some (cs, t) => (readLiteralLines fuel t).map fun (s, rest) => (cs ++ s, rest)
      | none => none

/-! ## Keys -/

/-- The character may stand in a key without quotes. -/
def isBare (c : Char) : Bool :=
  c.isAlphanum || c == '_' || c == '-'

/-- One part of a key. -/
def readKeyPart : Text → Option (Text × Text)
  | '"' :: t => readQuoted (t.length + 1) t
  | '\'' :: t => readLiteral t
  | t =>
    let (key, rest) := t.span isBare
    if key.isEmpty then none else some (key, rest)

/-- A key of at most `room` parts divided by dots, and what follows it on the line. -/
def readParts : (room : Nat) → Text → Option (List Text × Text)
  | 0, _ => none
  | room + 1, t =>
    match readKeyPart (skipSpace t) with
    | none => none
    | some (part, t) =>
      match skipSpace t with
      | '.' :: t => (readParts room t).map fun (parts, rest) => (part :: parts, rest)
      | t => some ([part], t)

/-- A key, and what follows it on the line. -/
def readKey (t : Text) : Option (List Text × Text) := readParts maxDepth t

/-! ## Values -/

/-- The table of inline entries, unless a key is given twice. -/
def inlineTable? (entries : List (List Text × Toml)) : Option Toml :=
  (entries.foldlM (fun table (path, v) => TomlTree.assignIn path v table) []).map
    fun table => .table (TomlTree.toEntries table)

mutual

/-- A value in which arrays and tables are nested at most `room` deep. -/
def readValue (room : Nat) : (fuel : Nat) → Text → Option (Toml × Text)
  | 0, _ => none
  | fuel + 1, t =>
    match t with
    | '"' :: '"' :: '"' :: t =>
      (readQuotedLines (t.length + 1) (dropLineBreak t)).map fun (s, rest) => (.string s, rest)
    | '\'' :: '\'' :: '\'' :: t =>
      (readLiteralLines (t.length + 1) (dropLineBreak t)).map fun (s, rest) => (.string s, rest)
    | '"' :: t => (readQuoted (t.length + 1) t).map fun (s, rest) => (.string s, rest)
    | '\'' :: t => (readLiteral t).map fun (s, rest) => (.string s, rest)
    | '[' :: t =>
      if room = 0 then none
      else (readItems (room - 1) fuel t).map fun (items, rest) => (.array items, rest)
    | '\x7b' :: t =>
      if room = 0 then none
      else
        match readFields (room - 1) fuel t with
        | some (entries, rest) => (inlineTable? entries).map fun v => (v, rest)
        | none => none
    | t => readWords t

/-- The items of an array, up to its end.  Line breaks and comments may stand between them, and a comma after the
last one. -/
def readItems (room : Nat) : (fuel : Nat) → Text → Option (List Toml × Text)
  | 0, _ => none
  | fuel + 1, t =>
    match skipLines (t.length + 1) t with
    | ']' :: rest => some ([], rest)
    | t =>
      match readValue room fuel t with
      | none => none
      | some (v, t) =>
        match skipLines (t.length + 1) t with
        | ']' :: rest => some ([v], rest)
        | ',' :: t => (readItems room fuel t).map fun (items, rest) => (v :: items, rest)
        | _ => none

/-- The entries of an inline table, up to its end.  Line breaks and comments may stand between them and around the
equals sign, and a comma after the last one. -/
def readFields (room : Nat) : (fuel : Nat) → Text → Option (List (List Text × Toml) × Text)
  | 0, _ => none
  | fuel + 1, t =>
    match skipLines (t.length + 1) t with
    | '\x7d' :: rest => some ([], rest)
    | t =>
      match readField room fuel t with
      | none => none
      | some (field, t) =>
        match skipLines (t.length + 1) t with
        | '\x7d' :: rest => some ([field], rest)
        | ',' :: t => (readFields room fuel t).map fun (entries, rest) => (field :: entries, rest)
        | _ => none

/-- A key and its value in an inline table. -/
def readField (room : Nat) : (fuel : Nat) → Text → Option ((List Text × Toml) × Text)
  | 0, _ => none
  | fuel + 1, t =>
    match readKey t with
    | none => none
    | some (key, t) =>
      match skipLines (t.length + 1) t with
      | '=' :: t =>
        (readValue room fuel (skipLines (t.length + 1) t)).map fun (v, rest) => ((key, v), rest)
      | _ => none

end

/-! ## Files -/

/-- The state of reading a file: the path of the table that was opened last, and all entries. -/
structure Progress where
  header : List Text := []
  entries : List (Text × TomlTree) := []

/-- A header, past its opening bracket. -/
def readHeader (p : Progress) (t : Text) : Option (Progress × Text) :=
  match readKey t with
  | some (path, ']' :: rest) => (TomlTree.openTable path p.entries).map fun e => (⟨path, e⟩, rest)
  | _ => none

/-- A key with its value. -/
def readEntry (p : Progress) (t : Text) : Option (Progress × Text) :=
  match readKey t with
  | some (path, '=' :: t) =>
    match readValue maxDepth (2 * t.length + 2) (skipSpace t) with
    | some (v, rest) =>
      (TomlTree.assign p.header path v p.entries).map fun e => ({ p with entries := e }, rest)
    | none => none
  | _ => none

/-- Reads lines until the text ends. -/
def readLines : (fuel : Nat) → Progress → Text → Option Progress
  | 0, _, _ => none
  | fuel + 1, p, t =>
    match skipLines (t.length + 1) t with
    | [] => some p
    | '[' :: t =>
      match readHeader p t with
      | some (p, t) => (lineEnd? t).bind (readLines fuel p)
      | none => none
    | t =>
      match readEntry p t with
      | some (p, t) => (lineEnd? t).bind (readLines fuel p)
      | none => none

/-- The text without a byte order mark. -/
def dropMark : Text → Text
  | c :: t => if c = Char.ofNat 0xFEFF then t else c :: t
  | [] => []

/-- The top-level entries of a settings file. -/
def parse? (t : Text) : Option (List (Text × Toml)) :=
  (readLines (t.length + 1) {} (dropMark t)).map fun p => TomlTree.toEntries p.entries

end JavaSource.Toml
