import JavaSource.Command.Workspace

/-!
# The grammar of a command line

A command line is a list of words.  Words that begin with a hyphen are options; everything else, and everything after a
word of two hyphens, is an operand.  A `Grammar` says which options a command knows and what its operands may be.

Words are read from left to right, and the first thing that settles the matter counts: a request for help before a
mistake gives help, a mistake before a request for help is a mistake.
-/

namespace JavaSource.Command

/-- What an operand or the value of an option may be. -/
inductive Operand where
  /-- A path, which is not empty. -/
  | path
  /-- Any text. -/
  | text
  /-- A key and a value. -/
  | pair
  /-- One of some words. -/
  | word (choices : List Text)

/-- The text is an operand of this kind. -/
def Operand.accepts : Operand → Text → Bool
  | .path, t => !t.isEmpty
  | .text, _ => true
  | .pair, t =>
    match KeyValue.parse t with
    | .ok _ => true
    | .error _ => false
  | .word choices, t => choices.contains t

/-- What an option does. -/
inductive Effect where
  /-- Asks for help. -/
  | help
  /-- Asks for the version. -/
  | version
  /-- Is given or not. -/
  | flag (repeatable : Bool)
  /-- Takes a value. -/
  | setting (kind : Operand) (repeatable : Bool)

/-- An option with its long and short form. -/
structure Opt where
  long : Text
  short : Option Char
  effect : Effect

/-- The options and operands of a command. -/
structure Grammar where
  options : List Opt
  /-- The kinds of the first operands. -/
  operands : List Operand := []
  /-- The kind of all further operands, if there may be any. -/
  further : Option Operand := none
  /-- The least number of operands. -/
  required : Nat := 0

/-- What a word, or a part of it, amounts to. -/
inductive Event where
  | operand (t : Text)
  | option (o : Opt) (value : Option Text)
  | mistake

/-- The word is an option: it begins with a hyphen and goes on. -/
def isOption : Text → Bool
  | '-' :: _ :: _ => true
  | _ => false

/-- An option that needs no value. -/
def Opt.isFlag (o : Opt) : Bool :=
  match o.effect with
  | .setting _ _ => false
  | _ => true

/-- An event, and whether the next word is wanted as the value of the option. -/
structure Reading where
  events : List Event
  pending : Option Opt := none

/-- Reads a long option, without its hyphens. -/
def readLong (options : List Opt) (t : Text) : Reading :=
  let (name, value) :=
    match Text.cut? "=" t with
    | some (name, value) => (name, some value)
    | none => (t, none)
  match options.find? (·.long == name) with
  | none => ⟨[.mistake], none⟩
  | some o =>
    match o.isFlag, value with
    | true, none => ⟨[.option o none], none⟩
    | true, some _ => ⟨[.mistake], none⟩
    | false, some v => ⟨[.option o (some v)], none⟩
    | false, none => ⟨[], some o⟩

/-- Reads a cluster of short options, without its hyphen.  What follows an option that takes a value, perhaps after an
equals sign, is that value. -/
def readShort (options : List Opt) : Text → Reading
  | [] => ⟨[], none⟩
  | c :: rest =>
    match options.find? (·.short == some c) with
    | none => ⟨[.mistake], none⟩
    | some o =>
      if o.isFlag then
        let r := readShort options rest
        { r with events := .option o none :: r.events }
      else
        match rest with
        | [] => ⟨[], some o⟩
        | '=' :: value => ⟨[.option o (some value)], none⟩
        | value => ⟨[.option o (some value)], none⟩

/-- Reads a word that is an option. -/
def readOption (options : List Opt) : Text → Reading
  | '-' :: '-' :: t => readLong options t
  | '-' :: t => readShort options t
  | t => ⟨[.operand t], none⟩

/-- Reads words from left to right. -/
def events (options : List Opt) : List Text → List Event
  | [] => []
  | word :: rest =>
    if word = "--" then rest.map .operand
    else if isOption word then
      match readOption options word, rest with
      | ⟨found, none⟩, rest => found ++ events options rest
      | ⟨found, some o⟩, value :: rest =>
        if isOption value then found ++ [.mistake]
        else found ++ .option o (some value) :: events options rest
      | ⟨found, some _⟩, [] => found ++ [.mistake]
    else .operand word :: events options rest

/-- The options and operands that were given. -/
structure Given where
  flags : List Text := []
  settings : List (Text × Text) := []
  operands : List Text := []

namespace Given

/-- The flag was given. -/
def has (g : Given) (name : Text) : Bool := g.flags.contains name

/-- The value of an option. -/
def value? (g : Given) (name : Text) : Option Text := g.settings.lookup name

/-- All values of an option, in order. -/
def values (g : Given) (name : Text) : List Text :=
  (g.settings.filter (·.1 == name)).map (·.2)

end Given

/-- The outcome of reading a command line. -/
inductive Parsed (α : Type) where
  | run (a : α)
  | help
  | version
  | mistake

/-- Collects events from left to right. -/
def Grammar.collect (grammar : Grammar) (g : Given) : List Event → Parsed Given
  | [] => if g.operands.length < grammar.required then .mistake else .run g
  | .mistake :: _ => .mistake
  | .operand t :: rest =>
    match (grammar.operands[g.operands.length]?).or grammar.further with
    | some kind =>
      if kind.accepts t then grammar.collect { g with operands := g.operands ++ [t] } rest
      else .mistake
    | none => .mistake
  | .option o value :: rest =>
    match o.effect, value with
    | .help, _ => .help
    | .version, _ => .version
    | .flag repeatable, _ =>
      if g.has o.long && !repeatable then .mistake
      else grammar.collect { g with flags := g.flags ++ [o.long] } rest
    | .setting kind repeatable, some v =>
      if (g.value? o.long).isSome && !repeatable then .mistake
      else if kind.accepts v then
        grammar.collect { g with settings := g.settings ++ [(o.long, v)] } rest
      else .mistake
    | .setting _ _, none => .mistake

/-- Reads words by a grammar. -/
def Grammar.parse (grammar : Grammar) (words : List Text) : Parsed Given :=
  grammar.collect {} (events grammar.options words)

end JavaSource.Command
