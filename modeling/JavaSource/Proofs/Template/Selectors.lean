import JavaSource.Template.Selector
import JavaSource.Proofs.Decimal.Integer
import JavaSource.Proofs.Text.Ends

/-!
# Selectors in normal form

A selector is read from a text that may be padded with blanks and, where it is an integer, spelled in several ways.  This
file shows that reading forgets just that: **two texts are the same selector if they are equal up to the blanks, or spell
the same integer of 64 bits, and not otherwise**.

**Three kinds, one namespace.**  Positions, negative numbers and words are all written as texts.  They do not get in each
other's way: a position and a negative number are written in decimal form and are read as that number again, while a word
is a text that is no number (`Selector.parse?_eq_some_iff`).  So no word is written like a number
(`Selector.key_ne_ofInt`), and of two numbers only equal ones are the same selector (`Selector.ofInt_injective`).

**Written again.**  For the same reason what a selector is written as is read as that selector.
-/

namespace JavaSource

lemma Decimal.trim_ofInt (n : Int) : Text.trim (ofInt n) = ofInt n :=
  Text.trim_eq_self fun _ => isBlank_eq_false_of_mem_ofInt

namespace Selector

open Decimal (readLong?)

variable {s t : Text} {n : Int} {x : Selector}

/-! ## Numbers and words -/

lemma text_ofInt (n : Int) : (ofInt n).text = Decimal.ofInt n := by
  cases n with
  | ofNat n => rfl
  | negSucc n => rfl

lemma ofInt_injective {m : Int} (h : ofInt m = ofInt n) : m = n := by
  have htext := congrArg text h
  rw [text_ofInt, text_ofInt] at htext
  exact Decimal.ofInt_injective htext

/-- A word is not the decimal form of a number that could have been read. -/
lemma key_ne_ofInt {k : Text} (hk : readLong? k = none) (hn : Decimal.isLong n = true) : key k ≠ ofInt n := by
  intro h
  have htext := congrArg text h
  rw [text_ofInt, text] at htext
  rw [htext, Decimal.readLong?_ofInt hn] at hk
  cases hk

/-! ## Reading -/

lemma parse?_of_number (h : readLong? (Text.trim t) = some n) : parse? t = some (ofInt n) := by
  have hne : ¬ (Text.trim t).isEmpty = true := by
    intro hempty
    rw [List.isEmpty_iff.mp hempty] at h
    cases h
  simp only [parse?, if_neg hne, h]

lemma parse?_of_word (ht : Text.trim t ≠ []) (h : readLong? (Text.trim t) = none) :
    parse? t = some (.key (Text.trim t)) := by
  have hne : ¬ (Text.trim t).isEmpty = true := mt List.isEmpty_iff.mp ht
  simp only [parse?, if_neg hne, h]

/-- **What is read** is the number that the trimmed text spells, or the trimmed text. -/
lemma parse?_eq_some_iff : parse? t = some x ↔
    (∃ n, readLong? (Text.trim t) = some n ∧ x = ofInt n) ∨
      (Text.trim t ≠ [] ∧ readLong? (Text.trim t) = none ∧ x = .key (Text.trim t)) := by
  constructor
  · intro hparse
    cases hread : readLong? (Text.trim t) with
    | some n =>
        rw [parse?_of_number hread] at hparse
        exact Or.inl ⟨n, rfl, (Option.some.inj hparse).symm⟩
    | none =>
        have ht : Text.trim t ≠ [] := by
          intro hempty
          simp [parse?, hempty] at hparse
        rw [parse?_of_word ht hread] at hparse
        exact Or.inr ⟨ht, rfl, (Option.some.inj hparse).symm⟩
  · rintro (⟨n, hread, rfl⟩ | ⟨ht, hread, rfl⟩)
    · exact parse?_of_number hread
    · exact parse?_of_word ht hread

/-- **A text that is not blank is a selector**: an integer in its decimal form, and any other text as it is. -/
lemma exists_parse? (ht : Text.trim t ≠ []) :
    ∃ x, parse? t = some x ∧ x.text = ((readLong? (Text.trim t)).map Decimal.ofInt).getD (Text.trim t) := by
  cases hread : readLong? (Text.trim t) with
  | some n => exact ⟨ofInt n, parse?_of_number hread, text_ofInt n⟩
  | none => exact ⟨.key (Text.trim t), parse?_of_word ht hread, rfl⟩

/-- Blanks at the ends make no difference. -/
lemma parse?_congr (h : Text.trim s = Text.trim t) : parse? s = parse? t := by
  simp only [parse?, h]

/-! ## Normal form -/

/-- A number is read from its decimal form. -/
lemma parse?_ofInt (hn : Decimal.isLong n = true) : parse? (Decimal.ofInt n) = some (ofInt n) := by
  refine parse?_of_number ?_
  rw [Decimal.trim_ofInt, Decimal.readLong?_ofInt hn]

/-- **What was read is read again from what it is written as.** -/
lemma parse?_text (h : parse? t = some x) : parse? x.text = some x := by
  rcases parse?_eq_some_iff.mp h with ⟨n, hread, rfl⟩ | ⟨ht, hread, rfl⟩
  · rw [text_ofInt]
    exact parse?_ofInt (Decimal.isLong_of_readLong? hread)
  · have htrim : Text.trim (Text.trim t) = Text.trim t := Text.trim_trim t
    rw [text, parse?_of_word (by rwa [htrim]) (by rwa [htrim]), htrim]

/-- **Texts that are the same selector** spell the same number, or are equal up to blanks at the ends. -/
lemma trim_eq_or_number (hs : parse? s = some x) (ht : parse? t = some x) :
    Text.trim s = Text.trim t ∨
      ∃ n, readLong? (Text.trim s) = some n ∧ readLong? (Text.trim t) = some n := by
  rcases parse?_eq_some_iff.mp hs with ⟨n, hsRead, rfl⟩ | ⟨-, hsRead, rfl⟩
  · rcases parse?_eq_some_iff.mp ht with ⟨m, htRead, hsame⟩ | ⟨-, htRead, hsame⟩
    · exact Or.inr ⟨n, hsRead, by rwa [ofInt_injective hsame]⟩
    · exact absurd hsame.symm (key_ne_ofInt htRead (Decimal.isLong_of_readLong? hsRead))
  · rcases parse?_eq_some_iff.mp ht with ⟨m, htRead, hsame⟩ | ⟨-, htRead, hsame⟩
    · exact absurd hsame (key_ne_ofInt hsRead (Decimal.isLong_of_readLong? htRead))
    · exact Or.inl (key.inj hsame)

/-- **Selectors are normalised, and by no more than that.**  Two texts that are not blank are the same selector if and
only if they are equal without the blanks at their ends, or both spell one integer of 64 bits, be it with a plus sign,
with zeros in front or as minus zero.  And a selector that was read is read again from what it is written as. -/
theorem normalised_exactly :
    (∀ s t : Text, Text.trim s ≠ [] → Text.trim t ≠ [] →
      (parse? s = parse? t ↔ Text.trim s = Text.trim t ∨
        ∃ n : Int, (-2 ^ 63 ≤ n ∧ n < 2 ^ 63) ∧
          Decimal.Denotes (Text.trim s) n ∧ Decimal.Denotes (Text.trim t) n)) ∧
    ∀ (s : Text) (x : Selector), parse? s = some x → parse? x.text = some x := by
  refine ⟨fun s t hs _ => ⟨fun hsame => ?_, ?_⟩, fun s x => parse?_text⟩
  · obtain ⟨x, hparse, -⟩ := exists_parse? hs
    rcases trim_eq_or_number hparse (hsame ▸ hparse) with htrim | ⟨n, hsRead, htRead⟩
    · exact Or.inl htrim
    · obtain ⟨hsDenotes, hrange⟩ := Decimal.readLong?_eq_some_iff.mp hsRead
      exact Or.inr ⟨n, hrange, hsDenotes, (Decimal.readLong?_eq_some_iff.mp htRead).1⟩
  · rintro (htrim | ⟨n, hrange, hsDenotes, htDenotes⟩)
    · exact parse?_congr htrim
    · rw [parse?_of_number (Decimal.readLong?_eq_some_iff.mpr ⟨hsDenotes, hrange⟩),
        parse?_of_number (Decimal.readLong?_eq_some_iff.mpr ⟨htDenotes, hrange⟩)]

/-- Minus zero is the first position, and the least negative number is one key however it is spelled; but at the upper end
of the range spellings part, since what lies above it is a word. -/
theorem normalised_exactly_at_bounds :
    Text.trim "-0" ≠ [] ∧ Text.trim " +00\n" ≠ [] ∧ parse? "-0" = parse? " +00\n" ∧
      Text.trim "9223372036854775808" ≠ [] ∧ Text.trim "+9223372036854775808" ≠ [] ∧
      parse? "9223372036854775808" ≠ parse? "+9223372036854775808" ∧
      parse? "-09223372036854775808" = some (.key "-9223372036854775808") ∧
      parse? "-9223372036854775808" = some (.key "-9223372036854775808") := by
  have hminus : Text.trim "-0" ≠ [] := by decide
  have hplus : Text.trim " +00\n" ≠ [] := by decide
  have hbare : Text.trim "9223372036854775808" ≠ [] := by decide
  have hsigned : Text.trim "+9223372036854775808" ≠ [] := by decide
  have hzero : ∀ t : Text, readLong? t = some 0 → Decimal.Denotes t 0 := fun _ h =>
    (Decimal.readLong?_eq_some_iff.mp h).1
  have habove : readLong? (Text.trim "9223372036854775808") = none := by decide
  have hleast : parse? "-09223372036854775808" = some (.key "-9223372036854775808") := by decide
  refine ⟨hminus, hplus, ?_, hbare, hsigned, ?_, hleast, normalised_exactly.2 _ _ hleast⟩
  · exact (normalised_exactly.1 _ _ hminus hplus).mpr
      (Or.inr ⟨0, by decide, hzero _ (by decide), hzero _ (by decide)⟩)
  · intro hsame
    rcases (normalised_exactly.1 _ _ hbare hsigned).mp hsame with htrim | ⟨n, hrange, hdenotes, -⟩
    · exact absurd htrim (by decide)
    · rw [Decimal.readLong?_eq_some_iff.mpr ⟨hdenotes, hrange⟩] at habove
      cases habove

end Selector

end JavaSource
