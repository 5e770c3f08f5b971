import JavaSource.Command.Workspace
import JavaSource.Proofs.Template.Selectors

/-!
# Values under keys

A value is bound under a key, and a marker asks for it by a selector with the same text.  Keys are kept as they are
given, but a selector that reads as an integer is normalised; so **the value is found exactly if the key is written as
numbers are printed**, or is no number at all.

**Why.**  Where no positions are bound, a selector selects what is bound under its own text (`Bindings.select_set`).
That text is the trimmed one or, for an integer, its decimal form (`Selector.exists_parse?`).  So a value under the key
`01` cannot be reached by the selector `01`, which asks for `1`.
-/

namespace JavaSource

/-- The text is no integer of 64 bits, or it is one in decimal form: without plus sign, leading zeros, or a minus sign
before zero. -/
def Decimal.Plain (t : Text) : Prop := ∀ n, readLong? t = some n → t = ofInt n

/-! ## Bindings -/

namespace Bindings

variable {b : Bindings}

lemma lookup_put (k key : Text) (v : Value) : ∀ table : List (Text × Value),
    (put key v table).lookup k = if k = key then some v else table.lookup k
  | [] => by
      by_cases h : k = key
      · simp [put, h]
      · simp [put, h]
  | (other, w) :: rest => by
      rw [put]
      by_cases hother : other = key
      · by_cases h : k = key
        · simp [hother, h]
        · simp [hother, h, List.lookup_cons, beq_eq_false_iff_ne.mpr h]
      · by_cases h : k = other
        · subst h
          simp [hother]
        · simp [hother, List.lookup_cons, beq_eq_false_iff_ne.mpr h, lookup_put k key v rest]

/-- Without positions, a selector selects what is bound under its text. -/
lemma select_of_named (h : b.positional = []) (s : Selector) :
    b.select s = ((b.named.lookup s.text).elim (.error (.missingArgument s.text)) .ok) := by
  have hget : b.get? s = b.named.lookup s.text := by
    cases s with
    | index n => simp only [get?, h, List.getElem?_nil, Selector.text]
    | key k => rfl
  rw [select, hget]
  cases b.named.lookup s.text with
  | none => rfl
  | some v => rfl

/-- **Binding a key** changes what the selectors with the text of the key select, and no others. -/
lemma select_set (h : b.positional = []) (key : Text) (v : Value) (s : Selector) :
    (b.set key v).select s = if s.text = key then .ok v else b.select s := by
  rw [select_of_named (b := b.set key v) h, select_of_named h, set, lookup_put]
  split
  · rfl
  · rfl

/-- Nothing but the one key is bound. -/
lemma select_set_empty (key : Text) (v : Value) (s : Selector) :
    (({} : Bindings).set key v).select s = if s.text = key then .ok v else .error (.missingArgument s.text) :=
  (select_set rfl key v s).trans (by rw [select_of_named rfl]; rfl)

/-- What the selector of a trimmed text selects, if nothing but the same text is bound. -/
lemma exists_select {k : Text} (hk : Text.trim k ≠ []) (v : Value) : ∃ s, Selector.parse? k = some s ∧
    ((({} : Bindings).set (Text.trim k) v).select s = .ok v ↔ Decimal.Plain (Text.trim k)) ∧
    ∀ n, Decimal.readLong? (Text.trim k) = some n → Text.trim k ≠ Decimal.ofInt n →
      (({} : Bindings).set (Text.trim k) v).select s = .error (.missingArgument (Decimal.ofInt n)) := by
  obtain ⟨s, hparse, htext⟩ := Selector.exists_parse? hk
  refine ⟨s, hparse, ?_, ?_⟩
  · rw [select_set_empty, htext, Decimal.Plain]
    cases Decimal.readLong? (Text.trim k) with
    | some n => simp [eq_comm]
    | none => simp
  · intro n hread hother
    have hdecimal : s.text = Decimal.ofInt n := by rw [htext, hread, Option.map_some, Option.getD_some]
    rw [select_set_empty, hdecimal, if_neg hother.symm]

/-- The key of a pair is trimmed and not empty. -/
lemma trim_key {t : Text} {pair : KeyValue} (h : KeyValue.parse t = .ok pair) :
    Text.trim pair.key = pair.key ∧ pair.key ≠ [] := by
  unfold KeyValue.parse at h
  split at h
  · split at h
    · cases h
    · rename_i hne
      cases h
      exact ⟨Text.trim_trim _, by simpa using hne⟩
  · cases h

/-- **A value is selected by its key**, if the key is plain.  A text that is not blank is a selector.  It selects what is
bound under the trimmed text, unless that is an integer of 64 bits which is not in decimal form; then nothing is found,
since it is looked for under the decimal form.  The same holds of the keys of pairs `key=value`, which are trimmed when
they are read. -/
theorem key_selected_iff_plain :
    (∀ (k : Text) (v : Value), Text.trim k ≠ [] → ∃ s, Selector.parse? k = some s ∧
      ((({} : Bindings).set (Text.trim k) v).select s = .ok v ↔ Decimal.Plain (Text.trim k)) ∧
      ∀ n, Decimal.readLong? (Text.trim k) = some n → Text.trim k ≠ Decimal.ofInt n →
        (({} : Bindings).set (Text.trim k) v).select s = .error (.missingArgument (Decimal.ofInt n))) ∧
    ∀ (t : Text) (pair : KeyValue), KeyValue.parse t = .ok pair → ∃ s, Selector.parse? pair.key = some s ∧
      ((({} : Bindings).set pair.key (.text pair.value)).select s = .ok (.text pair.value) ↔
        Decimal.Plain pair.key) := by
  refine ⟨fun k v hk => exists_select hk v, fun t pair h => ?_⟩
  obtain ⟨htrim, hne⟩ := trim_key h
  obtain ⟨s, hparse, hselect, -⟩ := exists_select (k := pair.key) (by rwa [htrim]) (.text pair.value)
  rw [htrim] at hselect
  exact ⟨s, hparse, hselect⟩

/-- A negative number is a key of its own, a number with leading zeros is missed, and a pair is read from a text with two
equals signs. -/
theorem key_selected_iff_plain_numbers :
    Text.trim " -5 " ≠ [] ∧ Text.trim "007" ≠ [] ∧
      (∃ s, Selector.parse? " -5 " = some s ∧ (({} : Bindings).set "-5" .null).select s = .ok .null) ∧
      (∃ s, Selector.parse? "007" = some s ∧
        (({} : Bindings).set "007" .null).select s = .error (.missingArgument "7")) ∧
      KeyValue.parse " 7 = a=b" = .ok ⟨"7", " a=b"⟩ ∧
      ∃ s, Selector.parse? "7" = some s ∧ (({} : Bindings).set "7" (.text " a=b")).select s = .ok (.text " a=b") := by
  have plain : ∀ {t : Text} (n : Int), Decimal.readLong? t = some n → t = Decimal.ofInt n → Decimal.Plain t := by
    intro t n hread ht m hm
    rwa [Option.some.inj (hm.symm.trans hread)]
  have hnegative : Text.trim " -5 " ≠ [] := by decide
  have hpadded : Text.trim "007" ≠ [] := by decide
  have hpair : KeyValue.parse " 7 = a=b" = .ok ⟨"7", " a=b"⟩ := by rfl
  obtain ⟨s, hs, hselect, -⟩ := key_selected_iff_plain.1 " -5 " .null hnegative
  obtain ⟨s', hs', -, hmissed⟩ := key_selected_iff_plain.1 "007" .null hpadded
  obtain ⟨s'', hs'', hfound⟩ := key_selected_iff_plain.2 _ _ hpair
  refine ⟨hnegative, hpadded, ⟨s, hs, hselect.mpr (plain (-5) (by decide) (by decide))⟩,
    ⟨s', hs', hmissed 7 (by decide) (by decide)⟩, hpair, s'', hs'', hfound.mpr (plain 7 (by decide) (by decide))⟩

/-- **Not every key is found again**: a selector with leading zeros asks for the number without them. -/
theorem padded_key_not_selected :
    ¬ ∀ (k : Text) (v : Value), Text.trim k ≠ [] →
      ∃ s, Selector.parse? k = some s ∧ (({} : Bindings).set (Text.trim k) v).select s = .ok v := by
  intro hselected
  obtain ⟨s, hparse, hselect⟩ := hselected "01" .null (by decide)
  have hindex : Selector.parse? "01" = some (.index 1) := by decide
  cases hindex.symm.trans hparse
  cases hselect

end Bindings

end JavaSource
