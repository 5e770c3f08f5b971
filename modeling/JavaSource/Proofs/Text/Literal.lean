import Mathlib.Algebra.Ring.Parity
import Mathlib.Data.List.Induction
import JavaSource.Json.Reader
import JavaSource.Proofs.Basic
import JavaSource.Proofs.Listing.Simulation
import JavaSource.Proofs.Template.Actions

/-!
# String literals are read back

`Literal.quote` writes a text as a string literal.  This file says how such a literal is read, and shows that reading
gives the text back.

**Reading** takes two passes.  The first one translates Unicode escapes, wherever they stand: a backslash begins one
unless an odd number of backslashes stands directly before it (`translate`).  Its result is a sequence of UTF-16 code
units, since an escape may give one half of a surrogate pair.  Only then are the escape sequences of the literal
replaced (`unescape`).

**Why it works.**  Whatever a character is written as, the first pass is back at an even number of backslashes behind
it, so the characters of a text can be looked at one by one (`translate_escape`, `unescape_translated`).  The same
account of backslashes says that a quotation mark inside of the literal is always escaped (`escaping_of_quote`).

**On a listing.**  A literal has no controls, so it has no line breaks, and writing it completes no line.
-/

namespace JavaSource

/-! ## Code units -/

namespace Text

/-- A character of the basic plane as a code unit. -/
def unit (c : Char) : UInt16 := UInt16.ofNat c.toNat

/-- The UTF-16 code units of a character: one, or a surrogate pair. -/
def unitsOf (c : Char) : List UInt16 :=
  if c.toNat < 0x10000 then [unit c]
  else [UInt16.ofNat (0xD7C0 + c.toNat / 0x400), UInt16.ofNat (0xDC00 + c.toNat % 0x400)]

/-- The UTF-16 code units of a text. -/
def units (t : Text) : List UInt16 := t.flatMap unitsOf

/-- The first half of a surrogate pair. -/
def isHigh (u : UInt16) : Bool := 0xD800 ≤ u.toNat && u.toNat < 0xDC00

/-- The second half of a surrogate pair. -/
def isLow (u : UInt16) : Bool := 0xDC00 ≤ u.toNat && u.toNat < 0xE000

/-- The text of a sequence of code units, unless it has half of a surrogate pair on its own. -/
def ofUnits? : List UInt16 → Option Text
  | [] => some []
  | u :: rest =>
    if isHigh u then
      match rest with
      | [] => none
      | v :: rest =>
        if isLow v then
          (ofUnits? rest).map (Char.ofNat (0x10000 + 0x400 * (u.toNat - 0xD800) + (v.toNat - 0xDC00)) :: ·)
        else none
    else if isLow u then none
    else (ofUnits? rest).map (Char.ofNat u.toNat :: ·)

lemma toNat_ranges (c : Char) : c.toNat < 0xD800 ∨ 0xDFFF < c.toNat ∧ c.toNat < 0x110000 := by
  have h := c.valid
  simpa [UInt32.isValidChar, Nat.isValidChar] using h

lemma toNat_ofNat {n : Nat} (h : n < 0x10000) : (UInt16.ofNat n).toNat = n := UInt16.toNat_ofNat_of_lt' h

lemma toNat_unit {c : Char} (h : c.toNat < 0x10000) : (unit c).toNat = c.toNat := toNat_ofNat h

lemma ofUnits?_cons {u : UInt16} (hhigh : isHigh u = false) (hlow : isLow u = false) (rest : List UInt16) :
    ofUnits? (u :: rest) = (ofUnits? rest).map (Char.ofNat u.toNat :: ·) := by
  rw [ofUnits?.eq_def]
  simp [hhigh, hlow]

lemma ofUnits?_pair {u v : UInt16} (hhigh : isHigh u = true) (hlow : isLow v = true) (rest : List UInt16) :
    ofUnits? (u :: v :: rest) =
      (ofUnits? rest).map (Char.ofNat (0x10000 + 0x400 * (u.toNat - 0xD800) + (v.toNat - 0xDC00)) :: ·) := by
  rw [ofUnits?.eq_def]
  simp [hhigh, hlow]

/-- The units of a character are read as the character. -/
lemma ofUnits?_unitsOf (c : Char) (rest : List UInt16) :
    ofUnits? (unitsOf c ++ rest) = (ofUnits? rest).map (c :: ·) := by
  have hranges := toNat_ranges c
  unfold unitsOf
  split
  · rename_i hbasic
    have hhigh : isHigh (unit c) = false := by
      simp only [isHigh, toNat_unit hbasic, Bool.and_eq_false_iff, decide_eq_false_iff_not]
      omega
    have hlow : isLow (unit c) = false := by
      simp only [isLow, toNat_unit hbasic, Bool.and_eq_false_iff, decide_eq_false_iff_not]
      omega
    rw [List.singleton_append, ofUnits?_cons hhigh hlow, toNat_unit hbasic, Char.ofNat_toNat]
  · have hfirst : (UInt16.ofNat (0xD7C0 + c.toNat / 0x400)).toNat = 0xD7C0 + c.toNat / 0x400 :=
      toNat_ofNat (by omega)
    have hsecond : (UInt16.ofNat (0xDC00 + c.toNat % 0x400)).toNat = 0xDC00 + c.toNat % 0x400 :=
      toNat_ofNat (by omega)
    have hhigh : isHigh (UInt16.ofNat (0xD7C0 + c.toNat / 0x400)) = true := by
      simp only [isHigh, hfirst, Bool.and_eq_true, decide_eq_true_eq]
      omega
    have hlow : isLow (UInt16.ofNat (0xDC00 + c.toNat % 0x400)) = true := by
      simp only [isLow, hsecond, Bool.and_eq_true, decide_eq_true_eq]
      omega
    have hcode : 0x10000 + 0x400 * (0xD7C0 + c.toNat / 0x400 - 0xD800) + (0xDC00 + c.toNat % 0x400 - 0xDC00) =
        c.toNat := by omega
    rw [List.cons_append, List.singleton_append, ofUnits?_pair hhigh hlow, hfirst, hsecond, hcode, Char.ofNat_toNat]

/-- **A text is determined by its code units.** -/
lemma ofUnits?_units : ∀ t : Text, ofUnits? (units t) = some t
  | [] => rfl
  | c :: t => by
      rw [units, List.flatMap_cons, ofUnits?_unitsOf, ← units, ofUnits?_units t, Option.map_some]

/-- Behind a unit of the basic plane there is only its own character. -/
lemma eq_of_unit_mem {c d : Char} (hd : d.toNat < 0xD800) (h : unit d ∈ unitsOf c) : c = d := by
  have hranges := toNat_ranges c
  have hunit : (unit d).toNat = d.toNat := toNat_unit (by omega)
  unfold unitsOf at h
  split at h
  · rename_i hbasic
    have hnat := congrArg UInt16.toNat (List.mem_singleton.mp h)
    rw [hunit, toNat_unit hbasic] at hnat
    exact Char.toNat_inj.mp hnat.symm
  · simp only [List.mem_cons, List.not_mem_nil, or_false] at h
    rcases h with h | h
    · have hnat := congrArg UInt16.toNat h
      rw [hunit, toNat_ofNat (by omega)] at hnat
      omega
    · have hnat := congrArg UInt16.toNat h
      rw [hunit, toNat_ofNat (by omega)] at hnat
      omega

end Text

namespace Literal

open Text (unit unitsOf units)

/-! ## Reading -/

/-- Whether the number of backslashes in a row is odd behind the character `c`, if before it `odd` says so. -/
def oddAfter (odd : Bool) (c : Char) : Bool := c == '\\' && !odd

mutual

/-- The first pass: translates Unicode escapes.  `odd` says that an odd number of backslashes stands directly before
the text; then a backslash at its beginning does not begin an escape. -/
def translate : (odd : Bool) → Text → Option (List UInt16)
  | _, [] => some []
  | false, '\\' :: 'u' :: rest => translateMarked rest
  | odd, c :: rest => (translate (oddAfter odd c) rest).map (unitsOf c ++ ·)

/-- A Unicode escape behind its backslash and its first `u`: any number of further ones, and four hexadecimal digits. -/
def translateMarked : Text → Option (List UInt16)
  | 'u' :: rest => translateMarked rest
  | d₁ :: d₂ :: d₃ :: d₄ :: rest =>
    match Json.readHex 4 0 [d₁, d₂, d₃, d₄] with
    | some (n, _) => (translate false rest).map (UInt16.ofNat n :: ·)
    | none => none
  | _ => none

end

/-- The escape sequences: the character behind the backslash, and what the two stand for. -/
def sequences : List (Char × Char) :=
  [('b', '\x08'), ('t', '\t'), ('n', '\n'), ('f', '\x0c'), ('r', '\r'), ('"', '"'), ('\\', '\\')]

/-- The escape sequences, in code units. -/
def sequenceUnits : List (UInt16 × UInt16) := sequences.map fun (letter, c) => (unit letter, unit c)

/-- The unit cannot stand in a literal: it would end it, or the line. -/
def isEnd (u : UInt16) : Bool := u == unit '"' || u == unit '\n' || u == unit '\r'

/-- The second pass: replaces escape sequences. -/
def unescape : List UInt16 → Option (List UInt16)
  | [] => some []
  | u :: rest =>
    if u = unit '\\' then
      match rest with
      | [] => none
      | v :: rest => (sequenceUnits.lookup v).bind fun w => (unescape rest).map (w :: ·)
    else if isEnd u then none
    else (unescape rest).map (u :: ·)

/-- Reads what stands between the quotation marks of a string literal. -/
def read? (t : Text) : Option Text := ((translate false t).bind unescape).bind Text.ofUnits?

-- the second backslash is no escape in the first pass, and one in the second
example : read? "\\\\u0041\\uu0041\\ud83d\\uDE00" = some "\\u0041A😀" := by decide +kernel

-- an escaped quotation mark of the first pass ends the literal in the second
example : read? "\\u0022" = none := by decide +kernel

/-! ## How a character is written -/

/-- The three ways in which a character is written. -/
inductive Spelled : Char → Text → Prop
  /-- By an escape sequence. -/
  | sequence {letter c : Char} (mem : (letter, c) ∈ sequences) : Spelled c ['\\', letter]
  /-- By its code point. -/
  | code {c : Char} (control : Unicode.isControl c = true) (notLetter : controlLetter? c = none) :
      Spelled c ('\\' :: 'u' :: hex 4 c.toNat)
  /-- By itself. -/
  | plain {c : Char} (notControl : Unicode.isControl c = false) (notQuote : c ≠ '"') (notBackslash : c ≠ '\\') :
      Spelled c [c]

lemma mem_sequences_of_controlLetter? {c letter : Char} (h : controlLetter? c = some letter) :
    (letter, c) ∈ sequences := by
  unfold controlLetter? at h
  split at h <;> cases h <;> decide

lemma spelled_escape (c : Char) : Spelled c (escape c) := by
  unfold escape
  split
  · rename_i hmarked
    rcases hmarked with rfl | rfl
    · exact .sequence (by decide)
    · exact .sequence (by decide)
  · rename_i hmarked
    obtain ⟨hquote, hbackslash⟩ := not_or.mp hmarked
    split
    · rename_i letter hletter
      exact .sequence (mem_sequences_of_controlLetter? hletter)
    · rename_i hletter
      split
      · rename_i hcontrol
        exact .code hcontrol hletter
      · rename_i hcontrol
        exact .plain (Bool.eq_false_iff.mpr hcontrol) hquote hbackslash

/-! ## The first pass -/

lemma hex_four (n : Nat) : hex 4 n =
    [Nat.digitChar (n / 16 / 16 / 16 % 16), Nat.digitChar (n / 16 / 16 % 16), Nat.digitChar (n / 16 % 16),
      Nat.digitChar (n % 16)] := by
  simp [hex]

/-- A digit is read as its value, and it is none of the characters with a meaning of their own. -/
lemma digitChar_spec : ∀ k < 16, Json.hexDigit? (Nat.digitChar k) = some k ∧
    Unicode.isControl (Nat.digitChar k) = false ∧ Nat.digitChar k ∉ ['u', '"', '\\'] := by decide

lemma mem_hex {n : Nat} {d : Char} (h : d ∈ hex 4 n) : ∃ k < 16, d = Nat.digitChar k := by
  have hlt : ∀ m : Nat, m % 16 < 16 := fun m => Nat.mod_lt m (by decide)
  simp only [hex_four, List.mem_cons, List.not_mem_nil, or_false] at h
  rcases h with rfl | rfl | rfl | rfl <;> exact ⟨_, hlt _, rfl⟩

lemma readHex_hex {n : Nat} (h : n < 0x10000) : Json.readHex 4 0 (hex 4 n) = some (n, []) := by
  have hdigit : ∀ m : Nat, Json.hexDigit? (Nat.digitChar (m % 16)) = some (m % 16) :=
    fun m => (digitChar_spec _ (Nat.mod_lt m (by decide))).1
  have hvalue : 16 * (16 * (16 * (16 * 0 + n / 16 / 16 / 16 % 16) + n / 16 / 16 % 16) + n / 16 % 16) + n % 16 = n := by
    omega
  simp only [hex_four, Json.readHex, hdigit, hvalue]

lemma translateMarked_hex {n : Nat} (h : n < 0x10000) (rest : Text) :
    translateMarked (hex 4 n ++ rest) = (translate false rest).map (UInt16.ofNat n :: ·) := by
  have hread := readHex_hex h
  have hu : Nat.digitChar (n / 16 / 16 / 16 % 16) ≠ 'u' := by
    have hspec := (digitChar_spec _ (Nat.mod_lt (n / 16 / 16 / 16) (by decide))).2.2
    simp only [List.mem_cons, not_or] at hspec
    exact hspec.1
  rw [hex_four] at hread ⊢
  simp only [List.cons_append, List.nil_append]
  rw [translateMarked]
  · simp only [hread]
  · exact hu

lemma oddAfter_of_ne {c : Char} (h : c ≠ '\\') (odd : Bool) : oddAfter odd c = false := by
  rw [oddAfter, beq_eq_false_iff_ne.mpr h, Bool.false_and]

/-- Where no escape begins, a character gives its own units. -/
lemma translate_cons {odd : Bool} {c : Char} {rest : Text} (h : odd = false → c = '\\' → rest.head? ≠ some 'u') :
    translate odd (c :: rest) = (translate (oddAfter odd c) rest).map (unitsOf c ++ ·) := by
  rw [translate]
  rintro rest' hodd hc rfl
  exact h hodd hc rfl

lemma translate_plain {c : Char} (h : c ≠ '\\') (rest : Text) :
    translate false (c :: rest) = (translate false rest).map (unitsOf c ++ ·) := by
  rw [translate_cons fun _ hc => absurd hc h, oddAfter_of_ne h]

/-- An escape sequence is not touched: the character behind the backslash comes after an odd number of them. -/
lemma translate_sequence {letter : Char} (h : letter ≠ 'u') (rest : Text) :
    translate false ('\\' :: letter :: rest) =
      (translate false rest).map (unitsOf '\\' ++ unitsOf letter ++ ·) := by
  have hfirst : translate false ('\\' :: letter :: rest) =
      (translate true (letter :: rest)).map (unitsOf '\\' ++ ·) := translate_cons fun _ _ => by simpa using h
  have hsecond : translate true (letter :: rest) = (translate false rest).map (unitsOf letter ++ ·) := by
    rw [translate_cons (by simp), oddAfter, Bool.not_true, Bool.and_false]
  rw [hfirst, hsecond, Option.map_map]
  simp only [Function.comp_def, List.append_assoc]

/-! ## The second pass -/

/-- Units without a meaning of their own stand for themselves. -/
lemma unescape_append : ∀ {us : List UInt16}, (∀ u ∈ us, u ≠ unit '\\' ∧ isEnd u = false) → ∀ rest,
    unescape (us ++ rest) = (unescape rest).map (us ++ ·)
  | [], _, rest => by simp
  | u :: us, h, rest => by
      obtain ⟨⟨hbackslash, hend⟩, hus⟩ := List.forall_mem_cons.mp h
      rw [List.cons_append, unescape.eq_def]
      simp only [if_neg hbackslash, hend, Bool.false_eq_true, if_false]
      rw [unescape_append hus, Option.map_map]
      rfl

lemma unescape_unitsOf {c : Char} (h : c ∉ ['\\', '"', '\n', '\r']) (rest : List UInt16) :
    unescape (unitsOf c ++ rest) = (unescape rest).map (unitsOf c ++ ·) := by
  refine unescape_append (fun u hu => ?_) rest
  have hne : ∀ d ∈ ['\\', '"', '\n', '\r'], u ≠ unit d := by
    rintro d hd rfl
    have hsmall : ∀ d ∈ ['\\', '"', '\n', '\r'], d.toNat < 0xD800 := by simp
    exact h (Text.eq_of_unit_mem (hsmall d hd) hu ▸ hd)
  refine ⟨hne _ (by decide), ?_⟩
  simp only [isEnd, Bool.or_eq_false_iff, beq_eq_false_iff_ne]
  exact ⟨⟨hne _ (by decide), hne _ (by decide)⟩, hne _ (by decide)⟩

/-- What is needed of the table of escape sequences. -/
lemma sequences_spec : ∀ entry ∈ sequences, entry.1 ≠ 'u' ∧ Unicode.isControl entry.1 = false ∧
    unitsOf entry.1 = [unit entry.1] ∧ unitsOf entry.2 = [unit entry.2] ∧
    sequenceUnits.lookup (unit entry.1) = some (unit entry.2) := by decide

lemma unescape_sequence {letter c : Char} (h : (letter, c) ∈ sequences) (rest : List UInt16) :
    unescape (unitsOf '\\' ++ unitsOf letter ++ rest) = (unescape rest).map (unitsOf c ++ ·) := by
  obtain ⟨-, -, hletter, hc, hlookup⟩ := sequences_spec _ h
  have hbackslash : unitsOf '\\' = [unit '\\'] := by decide
  rw [hbackslash, hletter, hc, List.singleton_append, List.cons_append, unescape.eq_def]
  simp only [if_true, List.singleton_append, hlookup, Option.bind_some]

/-! ## Both passes -/

/-- **One character.**  The first pass turns what is written into units of its own, and the second one turns these into
the units of the character, whatever follows. -/
lemma Spelled.read {c : Char} {s : Text} (h : Spelled c s) : ∃ us : List UInt16,
    (∀ rest, translate false (s ++ rest) = (translate false rest).map (us ++ ·)) ∧
      ∀ rest, unescape (us ++ rest) = (unescape rest).map (unitsOf c ++ ·) := by
  cases h with
  | @sequence letter c mem =>
      exact ⟨_, translate_sequence (sequences_spec _ mem).1, unescape_sequence mem⟩
  | code control notLetter =>
      have hcode : c.toNat < 0x10000 := by
        simp only [Unicode.isControl, Bool.or_eq_true, Bool.and_eq_true, decide_eq_true_eq] at control
        omega
      have hunits : unitsOf c = [UInt16.ofNat c.toNat] := if_pos hcode
      refine ⟨unitsOf c, fun rest => ?_, unescape_unitsOf ?_⟩
      · rw [hunits, List.cons_append, List.cons_append, translate, translateMarked_hex hcode]
        rfl
      · rintro hmem
        simp only [List.mem_cons, List.not_mem_nil, or_false] at hmem
        rcases hmem with rfl | rfl | rfl | rfl
        · cases control
        · cases control
        · cases notLetter
        · cases notLetter
  | plain notControl notQuote notBackslash =>
      refine ⟨unitsOf c, translate_plain notBackslash, unescape_unitsOf ?_⟩
      rintro hmem
      simp only [List.mem_cons, List.not_mem_nil, or_false] at hmem
      rcases hmem with rfl | rfl | rfl | rfl
      · exact notBackslash rfl
      · exact notQuote rfl
      · cases notControl
      · cases notControl

lemma read_flatMap_escape : ∀ t : Text, ∃ us : List UInt16,
    translate false (t.flatMap escape) = some us ∧ unescape us = some (units t)
  | [] => ⟨[], rfl, rfl⟩
  | c :: t => by
      obtain ⟨us, htranslate, hunescape⟩ := read_flatMap_escape t
      obtain ⟨us', htranslate', hunescape'⟩ := (spelled_escape c).read
      refine ⟨us' ++ us, ?_, ?_⟩
      · rw [List.flatMap_cons, htranslate', htranslate, Option.map_some]
      · rw [hunescape', hunescape, Option.map_some, units, units, List.flatMap_cons]

/-- **What was written between the quotation marks is read as the text.** -/
lemma read?_flatMap_escape (t : Text) : read? (t.flatMap escape) = some t := by
  obtain ⟨us, htranslate, hunescape⟩ := read_flatMap_escape t
  rw [read?, htranslate, Option.bind_some, hunescape, Option.bind_some, Text.ofUnits?_units]

/-! ## Controls and quotation marks -/

/-- The text ends in an odd number of backslashes, so the character behind it is escaped. -/
def escaping (t : Text) : Bool := t.foldl oddAfter false

lemma escaping_concat (t : Text) (c : Char) : escaping (t ++ [c]) = oddAfter (escaping t) c := by
  rw [escaping, List.foldl_append, List.foldl_cons, List.foldl_nil, escaping]

lemma escaping_append {s : Text} (h : escaping s = false) (t : Text) : escaping (s ++ t) = escaping t := by
  rw [escaping, List.foldl_append, ← escaping, h, escaping]

lemma escaping_iff_odd (t : Text) : escaping t = true ↔ Odd (t.reverse.takeWhile (· == '\\')).length := by
  induction t using List.reverseRecOn with
  | nil => simp [escaping]
  | append_singleton t c ih =>
      rw [escaping_concat, List.reverse_concat, List.takeWhile_cons]
      by_cases hc : c = '\\'
      · simp [hc, oddAfter, Nat.odd_add_one, ← ih]
      · simp [hc, oddAfter]

/-- Behind what a character is written as, no backslash is left open. -/
lemma Spelled.closed {c : Char} {s : Text} (h : Spelled c s) : escaping s = false := by
  cases h with
  | sequence mem => simp [escaping, oddAfter]
  | code control notLetter =>
      have hlast : Nat.digitChar (c.toNat % 16) ≠ '\\' := by
        have hspec := (digitChar_spec _ (Nat.mod_lt c.toNat (by decide))).2.2
        simp only [List.mem_cons, not_or] at hspec
        exact hspec.2.2.1
      exact (escaping_concat ('\\' :: 'u' :: hex 3 (c.toNat / 16)) _).trans (oddAfter_of_ne hlast _)
  | plain notControl notQuote notBackslash => exact oddAfter_of_ne notBackslash false

/-- The only quotation mark in what a character is written as stands behind a backslash. -/
lemma Spelled.eq_of_quote {c : Char} {front rest : Text} (h : Spelled c (front ++ '"' :: rest)) : front = ['\\'] := by
  generalize hs : front ++ '"' :: rest = s at h
  have hmem : '"' ∈ s := hs ▸ by simp
  cases h with
  | sequence mem =>
      cases front with
      | nil => simp at hs
      | cons d front =>
          cases front with
          | nil => simpa using (List.cons.inj hs).1
          | cons e front => simp at hs
  | code control notLetter =>
      simp only [List.mem_cons, (by decide : '"' ≠ '\\'), (by decide : '"' ≠ 'u'), false_or] at hmem
      obtain ⟨k, hk, hdigit⟩ := mem_hex hmem
      exact absurd (by simp [← hdigit]) (digitChar_spec k hk).2.2
  | plain notControl notQuote notBackslash => exact absurd (List.mem_singleton.mp hmem).symm notQuote

/-- **A quotation mark inside of the literal is escaped.** -/
lemma escaping_of_quote : ∀ {t front rest : Text}, t.flatMap escape = front ++ '"' :: rest → escaping front = true
  | [], front, rest, h => by simp at h
  | c :: t, front, rest, h => by
      rw [List.flatMap_cons, List.append_eq_append_iff] at h
      -- the mark stands behind what `c` is written as, or in it
      rcases h with ⟨front', rfl, htail⟩ | ⟨inside, hescape, htail⟩
      · rw [escaping_append (spelled_escape c).closed]
        exact escaping_of_quote htail
      · cases inside with
        | nil =>
            have hempty : escaping [] = true := escaping_of_quote htail.symm
            cases hempty
        | cons d inside =>
            obtain ⟨rfl, -⟩ := List.cons.inj htail
            have hspelled := spelled_escape c
            rw [hescape] at hspelled
            rw [hspelled.eq_of_quote]
            rfl

lemma Spelled.not_isControl {c : Char} {s : Text} (h : Spelled c s) : ∀ d ∈ s, Unicode.isControl d = false := by
  cases h with
  | sequence mem => simpa using ⟨by decide, (sequences_spec _ mem).2.1⟩
  | code control notLetter =>
      refine List.forall_mem_cons.mpr ⟨by decide, List.forall_mem_cons.mpr ⟨by decide, fun d hd => ?_⟩⟩
      obtain ⟨k, hk, rfl⟩ := mem_hex hd
      exact (digitChar_spec k hk).2.1
  | plain notControl notQuote notBackslash => simpa using notControl

/-- **A literal has no controls**, between its quotation marks and with them. -/
lemma not_isControl_quote (t : Text) : ∀ c ∈ quote t, Unicode.isControl c = false := by
  intro c hc
  simp only [quote, List.mem_cons, List.mem_append, List.not_mem_nil, or_false] at hc
  rcases hc with rfl | hc | rfl
  · decide
  · obtain ⟨d, -, hd⟩ := List.mem_flatMap.mp hc
    exact (spelled_escape d).not_isControl c hd
  · decide

end Literal

/-! ## On a listing -/

lemma Value.newline_notMem_literal {v : Value} {t : Text} (h : v.literal = .ok t) : '\n' ∉ t := by
  have hquote : ∀ s : Text, '\n' ∉ Literal.quote s := fun s hmem =>
    absurd (Literal.not_isControl_quote s _ hmem) (by decide)
  unfold literal at h
  split at h
  · cases h
    decide
  · obtain ⟨s, -, rfl⟩ := exists_of_map_eq_ok h
    exact hquote s

/-- Writing a literal into a listing only makes the line longer. -/
lemma Action.execute_literal {v : Value} {t : Text} (h : v.literal = .ok t) (l : Listing) :
    Action.literal.execute (some v) l = ⟨{ l with line := l.line ++ t }, none⟩ := by
  have hwritten : Action.literal.written v = .ok (.text t) := by rw [written, h, Except.map]
  have hline : (Fragment.text t).emit l = { l with line := l.line ++ t } := by
    rw [Fragment.emit, Listing.appendText_of_notMem (Value.newline_notMem_literal h), Listing.push]
  rw [execute_of_written rfl hwritten, hline]

namespace Literal

/-- **String literals decode back.**  A literal is a text between two quotation marks that is read as the text that was
written.  It has no controls, and every quotation mark inside stands behind an odd number of backslashes.  Hence the
literal of a value, where there is one, is added to the line being written, and nothing else about the listing
changes. -/
theorem quote_decodes_back :
    (∀ t : Text, ∃ inner : Text, quote t = '"' :: (inner ++ ['"']) ∧ read? inner = some t ∧
      (∀ c ∈ quote t, Unicode.isControl c = false) ∧
      ∀ front rest : Text, inner = front ++ '"' :: rest → Odd (front.reverse.takeWhile (· == '\\')).length) ∧
    ∀ (v : Value) (l : Listing), (Action.literal.execute (some v) l).error? = none →
      ∃ t : Text, v.literal = .ok t ∧ '\n' ∉ t ∧
        (Action.literal.execute (some v) l).listing = { l with line := l.line ++ t } := by
  refine ⟨fun t => ⟨t.flatMap escape, rfl, read?_flatMap_escape t, not_isControl_quote t, fun front rest h => ?_⟩,
    fun v l h => ?_⟩
  · exact (escaping_iff_odd front).mp (escaping_of_quote h)
  · cases hv : v.literal with
    | error e =>
        have hwritten : Action.literal.written v = .error e := by rw [Action.written, hv, Except.map]
        rw [Action.execute_of_error rfl hwritten] at h
        cases h
    | ok t =>
        refine ⟨t, rfl, Value.newline_notMem_literal hv, ?_⟩
        rw [Action.execute_literal hv]

/-- A text that looks like an escape, and a quotation mark, two controls, a surrogate pair and a backslash behind it. -/
theorem quote_decodes_back_hard :
    let t : Text := "\\u0041\"\x00\n😀\\"
    let inner : Text := "\\\\u0041\\\"\\u0000\\n😀\\\\"
    let v : Value := .object ⟨"a", "B"⟩ fun member => if member = "toString" then some (.text t) else none
    let l : Listing := { line := "s = " }
    quote t = '"' :: (inner ++ ['"']) ∧ read? inner = some t ∧ (Action.literal.execute (some v) l).error? = none ∧
      (Action.literal.execute (some v) l).listing = { l with line := l.line ++ quote t } := by
  intro t inner v l
  have hquote : quote t = '"' :: (inner ++ ['"']) := by decide +kernel
  have haccepted : (Action.literal.execute (some v) l).error? = none := by decide +kernel
  obtain ⟨inner', hquote', hread, -, -⟩ := quote_decodes_back.1 t
  obtain rfl : inner' = inner := List.append_cancel_right (List.cons.inj (hquote'.symm.trans hquote)).2
  obtain ⟨literal, hliteral, -, hlisting⟩ := quote_decodes_back.2 v l haccepted
  obtain rfl : quote t = literal := Except.ok.inj hliteral
  exact ⟨hquote, hread, haccepted, hlisting⟩

end Literal

end JavaSource
