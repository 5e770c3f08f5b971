import Mathlib.Algebra.Group.Int.Defs
import Mathlib.Algebra.Group.Nat.Defs
import Mathlib.Tactic.Common
import JavaSource.Decimal.Integer

/-!
# Integers and their spellings

An integer can be spelled in many ways: with a plus sign or without, with any number of zeros in front, and zero even with
a minus sign.  This file says what a spelling denotes, and that reading finds exactly that.

**Spellings.**  An optional sign and at least one digit, where each digit counts by its place (`Decimal.Denotes`).  The
reader goes through the digits from the left instead and knows no places; the two agree by `ofDigitChars_eq_placeValue`.
Hence an integer is read exactly from its spellings (`readInt?_eq_some_iff`), and an integer of at most 64 bits exactly from
those that denote one in the range (`readLong?_eq_some_iff`).

**The decimal form** is one of the spellings (`denotes_ofInt`).  So it is read back, and no two integers share it
(`ofInt_injective`).
-/

namespace JavaSource.Decimal

variable {t : Text} {c : Char}

/-! ## Spellings -/

/-- At least one character, and nothing but ASCII digits. -/
def IsDigits (t : Text) : Prop := t ≠ [] ∧ ∀ c ∈ t, c.isDigit = true

/-- The number that digits stand for: each of them, times the power of ten that belongs to its place. -/
def placeValue : Text → Nat
  | [] => 0
  | c :: rest => (c.toNat - '0'.toNat) * 10 ^ rest.length + placeValue rest

/-- The text spells the integer: digits, perhaps with a sign in front. -/
inductive Denotes : Text → Int → Prop
  | unsigned {digits : Text} (h : IsDigits digits) : Denotes digits (placeValue digits)
  | plus {digits : Text} (h : IsDigits digits) : Denotes ('+' :: digits) (placeValue digits)
  | minus {digits : Text} (h : IsDigits digits) : Denotes ('-' :: digits) (-(placeValue digits : Int))

/-! ## Digits -/

lemma IsDigits.notMem (h : IsDigits t) (hc : c.isDigit = false) : c ∉ t := by
  intro hmem
  rw [h.2 c hmem] at hc
  cases hc

/-- A digit is one of ten characters, none of which is a blank. -/
lemma isBlank_eq_false_of_isDigit (h : c.isDigit = true) : Unicode.isBlank c = false := by
  have hrange : 48 ≤ c.toNat ∧ c.toNat ≤ 57 := by
    simpa [Char.isDigit, UInt32.le_iff_toNat_le] using h
  have hblank : ∀ n < 58, 48 ≤ n → Unicode.Run.covers Unicode.blankRuns n = false := by decide
  exact hblank _ (Nat.lt_succ_of_le hrange.2) hrange.1

/-- **Counting from the left.**  Every further digit multiplies what was read by ten; in the end each digit has been
multiplied as often as there are places behind it. -/
lemma ofDigitChars_eq_placeValue : ∀ t : Text, Nat.ofDigitChars 10 t 0 = placeValue t
  | [] => rfl
  | c :: rest => by
      rw [Nat.ofDigitChars_cons, Nat.ofDigitChars_eq_ofDigitChars_zero, ofDigitChars_eq_placeValue rest, placeValue,
        Nat.mul_zero, Nat.zero_add, Nat.mul_comm]

lemma readDigits?_eq_some_iff {n : Nat} : readDigits? t = some n ↔ IsDigits t ∧ placeValue t = n := by
  rw [readDigits?, Option.ite_none_right_eq_some, ofDigitChars_eq_placeValue, List.all_eq_true, Option.some.injEq]
  rfl

lemma IsDigits.readDigits? (h : IsDigits t) : readDigits? t = some (placeValue t) :=
  readDigits?_eq_some_iff.mpr ⟨h, rfl⟩

/-! ## Reading -/

/-- Digits are read as they stand: they have no sign in front. -/
lemma IsDigits.readInt? (h : IsDigits t) : readInt? t = some (placeValue t : Int) := by
  unfold Decimal.readInt?
  split
  · exact absurd (List.mem_cons_self ..) (h.notMem (c := '-') (by decide))
  · exact absurd (List.mem_cons_self ..) (h.notMem (c := '+') (by decide))
  · rw [h.readDigits?]
    rfl

lemma IsDigits.readNat? (h : IsDigits t) : readNat? t = some (placeValue t) := by
  unfold Decimal.readNat?
  split
  · exact absurd (List.mem_cons_self ..) (h.notMem (c := '+') (by decide))
  · exact h.readDigits?

variable {n : Int}

/-- Where a number was read and given a sign, there are digits, and it is theirs. -/
lemma of_map_readDigits? {sign : Int → Int} (h : Option.map sign (readDigits? t : Option Int) = some n) :
    IsDigits t ∧ sign (placeValue t) = n := by
  cases hread : readDigits? t with
  | none =>
      rw [hread] at h
      cases h
  | some k =>
      obtain ⟨hdigits, rfl⟩ := readDigits?_eq_some_iff.mp hread
      rw [hread] at h
      exact ⟨hdigits, Option.some.inj h⟩

/-- **An integer is read exactly from its spellings.** -/
lemma readInt?_eq_some_iff : readInt? t = some n ↔ Denotes t n := by
  constructor
  · intro hread
    unfold readInt? at hread
    split at hread
    · obtain ⟨h, rfl⟩ := of_map_readDigits? hread
      exact .minus h
    · obtain ⟨h, rfl⟩ := of_map_readDigits? hread
      exact .plus h
    · obtain ⟨h, rfl⟩ := of_map_readDigits? hread
      exact .unsigned h
  · intro h
    cases h with
    | unsigned h => exact h.readInt?
    | plus h =>
        rw [readInt?, h.readDigits?]
        rfl
    | minus h =>
        rw [readInt?, h.readDigits?]
        rfl

lemma isLong_iff : isLong n = true ↔ -2 ^ 63 ≤ n ∧ n < 2 ^ 63 := by
  rw [isLong, Bool.and_eq_true, decide_eq_true_eq, decide_eq_true_eq]
  rfl

/-- **An integer of at most 64 bits is read exactly from its spellings.** -/
lemma readLong?_eq_some_iff : readLong? t = some n ↔ Denotes t n ∧ -2 ^ 63 ≤ n ∧ n < 2 ^ 63 := by
  rw [readLong?, Option.filter_eq_some_iff, readInt?_eq_some_iff, isLong_iff]

lemma isLong_of_readLong? (h : readLong? t = some n) : isLong n = true :=
  isLong_iff.mpr (readLong?_eq_some_iff.mp h).2

/-! ## The decimal form -/

lemma isDigits_ofNat (n : Nat) : IsDigits (ofNat n) :=
  ⟨Nat.toDigits_ne_nil, fun _ => Nat.isDigit_of_mem_toDigits (by decide) (by decide)⟩

lemma placeValue_ofNat (n : Nat) : placeValue (ofNat n) = n := by
  rw [← ofDigitChars_eq_placeValue, ofNat, Nat.ofDigitChars_ten_toDigits]

/-- **The decimal form is a spelling.** -/
lemma denotes_ofInt (n : Int) : Denotes (ofInt n) n := by
  cases n with
  | ofNat n =>
      have h := Denotes.unsigned (isDigits_ofNat n)
      rwa [placeValue_ofNat] at h
  | negSucc n =>
      have h := Denotes.minus (isDigits_ofNat (n + 1))
      rwa [placeValue_ofNat] at h

lemma readInt?_ofInt (n : Int) : readInt? (ofInt n) = some n := readInt?_eq_some_iff.mpr (denotes_ofInt n)

lemma readLong?_ofInt (h : isLong n = true) : readLong? (ofInt n) = some n :=
  readLong?_eq_some_iff.mpr ⟨denotes_ofInt n, isLong_iff.mp h⟩

lemma readWord?_ofNat {n : Nat} (h : n ≤ maxWord) : readWord? (ofNat n) = some n := by
  rw [readWord?, (isDigits_ofNat n).readNat?, placeValue_ofNat, Option.filter_some, if_pos (decide_eq_true h)]

lemma ofInt_injective {m : Int} (h : ofInt m = ofInt n) : m = n := by
  have hread := readInt?_ofInt m
  rw [h, readInt?_ofInt] at hread
  exact (Option.some.inj hread).symm

/-- A text with something else than digits in it is no number. -/
lemma ofNat_ne {n : Nat} (h : t.all Char.isDigit = false) : ofNat n ≠ t := by
  rintro rfl
  rw [List.all_eq_true.mpr (isDigits_ofNat n).2] at h
  cases h

/-- Neither the digits nor the sign are blank. -/
lemma isBlank_eq_false_of_mem_ofInt (h : c ∈ ofInt n) : Unicode.isBlank c = false := by
  cases n with
  | ofNat n => exact isBlank_eq_false_of_isDigit ((isDigits_ofNat n).2 c h)
  | negSucc n =>
      rcases List.mem_cons.mp h with rfl | hdigit
      · decide
      · exact isBlank_eq_false_of_isDigit ((isDigits_ofNat (n + 1)).2 c hdigit)

end JavaSource.Decimal
