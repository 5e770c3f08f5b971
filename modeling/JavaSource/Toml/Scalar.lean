import JavaSource.Toml.Basic

/-!
# Numbers, dates and times

The words of a settings file that are not in quotation marks: truth values, integers, fractions, dates and times.
In a number, underscores may stand between digits.

An integer is kept as it is written, in its base and without its underscores, and its value is worked out where a
setting asks for it (`integerValue?`).  What is checked before is how it begins and what stands next to its
underscores, so that a word such as `0x` or `1_0-3` can be read but is no number of spaces.  Fractions, dates and times
are checked in full.

A date and a time of day may be joined by a letter or by a single space, so words that only blanks divide are read as
one (`spanWords`).  Of numbers, only an integer with an underscore can have a blank in it, and no blank but a tab.
-/

namespace JavaSource.Toml

/-- The text without a sign in front. -/
def unsigned : Text → Text
  | '+' :: t => t
  | '-' :: t => t
  | t => t

/-- The text without its underscores. -/
def withoutUnderscores (t : Text) : Text := t.filter (· != '_')

/-- Every underscore stands between digits.  Underscores divide the text into groups, so every group after the first
begins with a digit, and every one before the last ends in a digit. -/
def hasDigitsAtUnderscores (isDigit : Char → Bool) (t : Text) : Bool :=
  let groups := t.splitOn '_'
  groups.tail.all (fun g => g.head?.any isDigit) && groups.dropLast.all fun g => g.getLast?.any isDigit

/-! ## Integers -/

/-- The character is a digit of a base. -/
def isDigitOf (base : Nat) (c : Char) : Bool := (Json.hexDigit? c).any (· < base)

/-- The value of digits in a base. -/
def valueInBase (base : Nat) (ds : Text) : Nat :=
  ds.foldl (fun n d => base * n + (Json.hexDigit? d).getD 0) 0

/-- The value of digits in a base, of which there must be one at least. -/
def magnitude? (base : Nat) (ds : Text) : Option Int :=
  if !ds.isEmpty && ds.all (isDigitOf base) then some (valueInBase base ds) else none

/-- The value of an integer, if it has one. -/
def integerValue? (base : Nat) : Text → Option Int
  | '-' :: ds => (magnitude? base ds).map (-·)
  | '+' :: ds => magnitude? base ds
  | ds => magnitude? base ds

/-- An integer with the mark of its base taken off. -/
def based? (base : Nat) (t : Text) : Option Toml :=
  if t.all (fun c => isDigitOf base c || c == '_') && hasDigitsAtUnderscores (isDigitOf 16) t then
    some (.integer base (withoutUnderscores t))
  else none

/-- A superfluous zero stands in front. -/
def hasLeadingZero : Text → Bool
  | '0' :: _ :: _ => true
  | _ => false

/-- A decimal integer: digits alone, or digits up to an underscore, behind which no fraction and no space follows. -/
def decimal? (t : Text) : Option Toml :=
  let magnitude := unsigned t
  if hasLeadingZero magnitude then none
  else
    match magnitude.span Char.isDigit with
    | ([], []) => none
    | (_, []) => some (.integer 10 t)
    | (_, '_' :: rest) =>
      if rest.all (fun c => !".eE ".toList.contains c) && hasDigitsAtUnderscores (isDigitOf 16) t then
        some (.integer 10 (withoutUnderscores t))
      else none
    | _ => none

/-- An integer. -/
def integer? : Text → Option Toml
  | '0' :: 'x' :: t => based? 16 t
  | '0' :: 'o' :: t => based? 8 t
  | '0' :: 'b' :: t => based? 2 t
  | t => decimal? t

/-! ## Fractions -/

/-- What follows digits and underscores, of which one at least must be a digit. -/
def afterDigits? (t : Text) : Option Text :=
  let (ds, rest) := t.span fun c => c.isDigit || c == '_'
  if ds.any Char.isDigit then some rest else none

/-- The text is an exponent. -/
def isExponent : Text → Bool
  | 'e' :: t => afterDigits? (unsigned t) == some []
  | 'E' :: t => afterDigits? (unsigned t) == some []
  | _ => false

/-- The text is what follows the whole part of a fraction: digits after a point, an exponent, or both. -/
def isFractionEnd : Text → Bool
  | '.' :: t => (afterDigits? t).any fun rest => rest.isEmpty || isExponent rest
  | t => isExponent t

/-- The digits in front of the text are a whole part: they have no superfluous zero in front. -/
def hasWholePart (t : Text) : Bool :=
  let whole := t.takeWhile fun c => c.isDigit || c == '_'
  !(t.head? == some '0' && whole.countP Char.isDigit > 1)

/-- The text is a fraction, infinite, or no number. -/
def isFloat (t : Text) : Bool :=
  let magnitude := unsigned t
  magnitude == "inf" || magnitude == "nan" ||
    (hasWholePart magnitude && (afterDigits? magnitude).any isFractionEnd &&
      hasDigitsAtUnderscores Char.isDigit t)

/-! ## Dates and times -/

/-- A number of exactly `width` digits. -/
def readFixed (width : Nat) (t : Text) : Option (Nat × Text) :=
  let ds := t.take width
  if ds.length = width ∧ ds.all Char.isDigit then some (valueInBase 10 ds, t.drop width) else none

/-- A number of two digits within bounds. -/
def readPart (least greatest : Nat) (t : Text) : Option (Nat × Text) :=
  (readFixed 2 t).filter fun (n, _) => least ≤ n && n ≤ greatest

/-- The number of days of a month. -/
def daysOf (year month : Nat) : Nat :=
  let isLeap := year % 4 == 0 && (year % 100 != 0 || year % 400 == 0)
  match month with
  | 2 => if isLeap then 29 else 28
  | 4 => 30
  | 6 => 30
  | 9 => 30
  | 11 => 30
  | _ => 31

/-- What follows a date. -/
def afterDate? (t : Text) : Option Text := do
  let (year, t) ← readFixed 4 t
  let t ← Text.after? "-" t
  let (month, t) ← readPart 1 12 t
  let t ← Text.after? "-" t
  let (_, t) ← readPart 1 (daysOf year month) t
  return t

/-- What follows the seconds of a time of day, where they are given; a leap second counts. -/
def afterSeconds? : Text → Option Text
  | ':' :: t =>
    match readPart 0 60 t with
    | some (_, '.' :: t) =>
      let (fraction, rest) := t.span Char.isDigit
      if fraction.isEmpty then none else some rest
    | some (_, t) => some t
    | none => none
  | t => some t

/-- What follows a time of day. -/
def afterTime? (t : Text) : Option Text := do
  let (_, t) ← readPart 0 23 t
  let t ← Text.after? ":" t
  let (_, t) ← readPart 0 59 t
  afterSeconds? t

/-- What follows a distance from the zero meridian. -/
def afterDistance? (t : Text) : Option Text := do
  let (_, t) ← readPart 0 23 t
  let t ← Text.after? ":" t
  let (_, t) ← readPart 0 59 t
  return t

/-- The text is nothing or a time zone. -/
def isZone : Text → Bool
  | [] => true
  | ['Z'] => true
  | ['z'] => true
  | '+' :: t => afterDistance? t == some []
  | '-' :: t => afterDistance? t == some []
  | _ => false

/-- The text is nothing, or a time of day behind a date. -/
def isTimeOfDate : Text → Bool
  | [] => true
  | c :: t => (c == 'T' || c == 't' || c == ' ') && (afterTime? t).any isZone

/-- The text is a date, a time of day, or both; only both together have a time zone. -/
def isMoment (t : Text) : Bool :=
  (afterDate? t).any isTimeOfDate || afterTime? t == some []

/-! ## Words -/

/-- A blank within a line. -/
def isSpace (c : Char) : Bool := c == ' ' || c == '\t'

/-- The text without leading blanks. -/
def skipSpace (t : Text) : Text := t.dropWhile isSpace

/-- The character may stand in a word: any but blanks, the controls that end a line, and the marks of structure. -/
def isWordPart (c : Char) : Bool := !" \t\r\n#=,[]\x7b\x7d".toList.contains c

/-- The character may begin a word: no quotation mark. -/
def isWordStart (c : Char) : Bool := isWordPart c && c != '"' && c != '\''

/-- Divides the text after its first words.  A blank belongs to them if another word follows it. -/
def spanWords : Text → Text × Text
  | [] => ([], [])
  | c :: t =>
    if isWordPart c || (isSpace c && (skipSpace t).head?.any isWordStart) then
      let (words, rest) := spanWords t
      (c :: words, rest)
    else ([], c :: t)

/-- The value of words. -/
def ofWords? (words : Text) : Option Toml :=
  if words = "true" then some (.boolean true)
  else if words = "false" then some (.boolean false)
  else if isMoment words then some (.moment words)
  else if isFloat words then some (.float words)
  else integer? words

/-- A value that is written without quotation marks. -/
def readWords (t : Text) : Option (Toml × Text) :=
  let (words, rest) := spanWords t
  (ofWords? words).map fun v => (v, rest)

end JavaSource.Toml
