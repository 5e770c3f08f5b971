import JavaSource.Template.Markers
import JavaSource.Proofs.Template.Selectors

/-!
# Codes and selectors are read back

An action is written as its code and a selector as its digits or its key.  This file shows that both are found again,
and that neither can be taken for another part of the marker that it stands in.

**Neutral characters.**  Blanks are trimmed, a colon ends the code, two slashes begin a comment and braces close the
marker.  All other characters are neutral.  The fixed codes, the arrows of indentation and the digits of a position
consist of neutral characters only; a path and a key may contain more, so what they must not contain is required of
them.

**Reading back.**  A code that begins with a character of no fixed code is looked up among the variable ones
(`Action.ofCode?_cons`), and digits are read as the number that they were made from (`Selector.parse?_ofInt`).

**Nothing but codes.**  Nothing is found under a text that is not the code of what was found (`Action.code_of_ofCode?`), so
looking up is the inverse of writing, on the actions that have a code.
-/

namespace JavaSource

variable {t : Text} {c : Char}

/-! ## Text that can stand in a marker -/

namespace MarkerBody

/-- The text neither closes a marker nor begins a comment in it. -/
structure Inert (t : Text) : Prop where
  open_ended : '\x7d' ∉ t
  uncommented : ¬ "//" <:+: t

/-- The text can stand as the code of a marker: moreover, it is not trimmed, and no selector begins in it. -/
structure Bare (t : Text) : Prop extends Inert t where
  unblank : ∀ c ∈ t, Unicode.isBlank c = false
  colon_notMem : ':' ∉ t

/-- The character has no meaning of its own in a marker. -/
def Neutral (c : Char) : Prop := Unicode.isBlank c = false ∧ c ≠ ':' ∧ c ≠ '/' ∧ c ≠ '\x7d'

instance : DecidablePred Neutral := fun _ => inferInstanceAs (Decidable (_ ∧ _))

lemma neutral_of_isDigit (h : c.isDigit = true) : Neutral c := by
  refine ⟨Decimal.isBlank_eq_false_of_isDigit h, ?_, ?_, ?_⟩ <;> rintro rfl <;> exact absurd h (by decide)

lemma bare_of_neutral (h : ∀ c ∈ t, Neutral c) : Bare t where
  open_ended hc := (h _ hc).2.2.2 rfl
  uncommented hslashes := (h '/' (hslashes.subset (by decide))).2.2.1 rfl
  unblank c hc := (h c hc).1
  colon_notMem hc := (h _ hc).2.1 rfl

lemma Bare.cons (hc : Neutral c) (h : Bare t) : Bare (c :: t) where
  open_ended := by
    rw [List.mem_cons, not_or]
    exact ⟨hc.2.2.2.symm, h.open_ended⟩
  uncommented hslashes := by
    have hnotMem : c ∉ ("//" : Text) := by simpa using hc.2.2.1
    rcases Text.infix_append_cons (s := []) hnotMem hslashes with hnil | ht
    · simp at hnil
    · exact h.uncommented ht
  unblank := List.forall_mem_cons.mpr ⟨hc.1, h.unblank⟩
  colon_notMem := by
    rw [List.mem_cons, not_or]
    exact ⟨hc.2.1.symm, h.colon_notMem⟩

end MarkerBody

open MarkerBody (Inert Bare Neutral)

/-! ## Codes -/

namespace Action

variable {a : Action} {path : Text}

/-- Segments with dots between them, none of them empty and without blanks. -/
def Path (path : Text) : Prop :=
  ∃ segments : List Text, segments ≠ [] ∧ path = Text.join "." segments ∧
    ∀ segment ∈ segments, segment ≠ [] ∧ '.' ∉ segment ∧ segment.any Unicode.isBlank = false

lemma isPath_iff : isPath path = true ↔ Path path := by
  constructor
  · intro h
    rw [isPath, List.all_eq_true] at h
    refine ⟨path.splitOn '.', List.splitOn_ne_nil '.' path, (Text.join_splitOn path).symm, fun segment hsegment => ?_⟩
    have hparts := h segment hsegment
    simp only [Bool.and_eq_true, Bool.not_eq_true', List.isEmpty_eq_false_iff] at hparts
    exact ⟨hparts.1, Text.notMem_of_mem_splitOn hsegment, hparts.2⟩
  · rintro ⟨segments, hne, rfl, hsegments⟩
    have hsplit : (Text.join "." segments).splitOn '.' = segments :=
      List.splitOn_intercalate '.' (fun s hs => (hsegments s hs).2.1) hne
    rw [isPath, hsplit, List.all_eq_true]
    intro segment hsegment
    obtain ⟨hnonempty, -, hblank⟩ := hsegments segment hsegment
    simp [hnonempty, hblank]

lemma Path.unblank (h : Path path) : ∀ c ∈ path, Unicode.isBlank c = false := by
  obtain ⟨segments, -, rfl, hsegments⟩ := h
  intro c hc
  rcases Text.mem_join hc with hdot | ⟨segment, hsegment, hc⟩
  · rw [List.mem_singleton.mp hdot]
    decide
  · exact Bool.eq_false_iff.mpr (List.any_eq_false.mp (hsegments segment hsegment).2.2 c hc)

/-- The actions whose codes can be written into a marker. -/
inductive Printable : Action → Prop
  | fixed {a : Action} (mem : a ∈ fixed) : Printable a
  | indent {count : Nat} (pos : 1 ≤ count) : Printable (.indent count)
  | dedent {count : Nat} (pos : 1 ≤ count) : Printable (.dedent count)
  | chain {path : Text} (dotted : Path path) (colon : ':' ∉ path) (inert : Inert path) : Printable (.chain path)

lemma all_neutral_of_mem_fixed : ∀ a ∈ fixed, a.code.all (decide <| Neutral ·) = true := by decide

lemma Printable.bare (h : a.Printable) : Bare a.code := by
  have hreplicate : ∀ (c : Char) (count : Nat), Neutral c → Bare (List.replicate count c) := fun c count hc =>
    MarkerBody.bare_of_neutral fun d hd => List.eq_of_mem_replicate hd ▸ hc
  cases h with
  | fixed mem =>
      have hall := List.all_eq_true.mp (all_neutral_of_mem_fixed a mem)
      exact MarkerBody.bare_of_neutral fun c hc => of_decide_eq_true (hall c hc)
  | indent _ => exact hreplicate '>' _ (by decide)
  | dedent _ => exact hreplicate '<' _ (by decide)
  | chain dotted colon inert => exact Bare.cons (by decide) ⟨inert, dotted.unblank, colon⟩

/-- The actions that have a code: there must be levels to indent or dedent by, and a path to follow. -/
inductive Coded : Action → Prop
  | fixed {a : Action} (mem : a ∈ fixed) : Coded a
  | indent {count : Nat} (pos : 1 ≤ count) : Coded (.indent count)
  | dedent {count : Nat} (pos : 1 ≤ count) : Coded (.dedent count)
  | chain {path : Text} (dotted : Path path) : Coded (.chain path)

lemma Printable.coded (h : a.Printable) : a.Coded := by
  cases h with
  | fixed mem => exact .fixed mem
  | indent pos => exact .indent pos
  | dedent pos => exact .dedent pos
  | chain dotted _ _ => exact .chain dotted

lemma coded_iff : a.Coded ↔ a ≠ .indent 0 ∧ a ≠ .dedent 0 ∧ ∀ path, a = .chain path → Path path := by
  constructor
  · intro h
    refine ⟨?_, ?_, ?_⟩
    · rintro rfl
      cases h with
      | fixed mem => exact absurd mem (by decide)
      | indent pos => exact absurd pos (by decide)
    · rintro rfl
      cases h with
      | fixed mem => exact absurd mem (by decide)
      | dedent pos => exact absurd pos (by decide)
    · rintro path rfl
      cases h with
      | fixed mem => simp [fixed] at mem
      | chain dotted => exact dotted
  · rintro ⟨hindent, hdedent, hchain⟩
    cases a with
    | indent count => exact .indent (Nat.one_le_iff_ne_zero.mpr fun h => hindent (h ▸ rfl))
    | dedent count => exact .dedent (Nat.one_le_iff_ne_zero.mpr fun h => hdedent (h ▸ rfl))
    | chain path => exact .chain (hchain path rfl)
    | _ => exact .fixed (by decide)

lemma ofCode?_fixed : ∀ a ∈ fixed, ofCode? a.code = some a := by decide

/-- A code that begins like no fixed one is looked up among the variable ones. -/
lemma ofCode?_cons (hc : ∀ a ∈ fixed, a.code.head? ≠ some c) (cs : Text) :
    ofCode? (c :: cs) = ofVariableCode? (c :: cs) := by
  have hnone : (fixed.find? fun a => a.code == c :: cs) = none := by
    rw [List.find?_eq_none]
    intro a ha hcode
    refine hc a ha ?_
    rw [beq_iff_eq.mp hcode, List.head?_cons]
  rw [ofCode?, hnone]

lemma isRepeated_replicate (c : Char) (n : Nat) : isRepeated c (List.replicate (n + 1) c) = true := by
  simp [isRepeated]

lemma isRepeated_cons_of_ne {d : Char} (h : d ≠ c) (t : Text) : isRepeated c (d :: t) = false := by
  simp [isRepeated, h]

/-- **An action is found under its code.** -/
lemma Coded.ofCode?_code (h : a.Coded) : ofCode? a.code = some a := by
  cases h with
  | fixed mem => exact ofCode?_fixed a mem
  | @indent count pos =>
      obtain ⟨n, rfl⟩ := Nat.exists_eq_add_of_le' pos
      rw [code, List.replicate_succ, ofCode?_cons (by decide), ← List.replicate_succ]
      unfold ofVariableCode?
      rw [isRepeated_replicate, if_pos rfl, List.length_replicate]
  | @dedent count pos =>
      obtain ⟨n, rfl⟩ := Nat.exists_eq_add_of_le' pos
      have hother : isRepeated '>' (List.replicate (n + 1) '<') = false := isRepeated_cons_of_ne (by decide) _
      rw [code, List.replicate_succ, ofCode?_cons (by decide), ← List.replicate_succ]
      unfold ofVariableCode?
      rw [hother, isRepeated_replicate, if_neg Bool.false_ne_true, if_pos rfl, List.length_replicate]
  | @chain path dotted =>
      rw [code, ofCode?_cons (by decide), ofVariableCode?, isRepeated_cons_of_ne (by decide),
        isRepeated_cons_of_ne (by decide), if_neg Bool.false_ne_true, if_neg Bool.false_ne_true, isPath_iff.mpr dotted,
        if_pos rfl]

lemma Printable.ofCode?_code (h : a.Printable) : ofCode? a.code = some a := h.coded.ofCode?_code

lemma eq_replicate_of_isRepeated {c : Char} (h : isRepeated c t = true) :
    1 ≤ t.length ∧ t = List.replicate t.length c := by
  simp only [isRepeated, Bool.and_eq_true, Bool.not_eq_true', List.isEmpty_eq_false_iff, List.all_eq_true,
    beq_iff_eq] at h
  exact ⟨List.length_pos_iff.mpr h.1, List.eq_replicate_iff.mpr ⟨rfl, h.2⟩⟩

/-- **Nothing else is found under a code.**  The rows of the look-up are gone through in order; each knows only codes that
its own actions have. -/
lemma code_of_ofCode? {code : Text} (h : ofCode? code = some a) : a.code = code ∧ a.Coded := by
  unfold ofCode? at h
  split at h
  · rename_i b hb
    cases h
    exact ⟨by simpa using List.find?_some hb, .fixed (List.mem_of_find?_eq_some hb)⟩
  · unfold ofVariableCode? at h
    split at h
    · rename_i hrepeated
      obtain ⟨hpos, heq⟩ := eq_replicate_of_isRepeated hrepeated
      cases h
      exact ⟨heq.symm, .indent hpos⟩
    · split at h
      · rename_i hrepeated
        obtain ⟨hpos, heq⟩ := eq_replicate_of_isRepeated hrepeated
        cases h
        exact ⟨heq.symm, .dedent hpos⟩
      · split at h
        · split at h
          · rename_i hpath
            cases h
            exact ⟨rfl, .chain (isPath_iff.mp hpath)⟩
          · cases h
        · cases h

/-- **Codes and actions are inverse to each other.**  What is found under a code has this code; and an action is found
under its code, unless it indents or dedents by nothing or follows something that is no path. -/
theorem code_inverse :
    (∀ {code : Text} {a : Action}, ofCode? code = some a → a.code = code) ∧
      ∀ a : Action, ofCode? a.code = some a ↔
        a ≠ .indent 0 ∧ a ≠ .dedent 0 ∧ ∀ path, a = .chain path → Path path := by
  refine ⟨fun h => (code_of_ofCode? h).1, fun a => ?_⟩
  rw [← coded_iff]
  exact ⟨fun h => (code_of_ofCode? h).2, Coded.ofCode?_code⟩

/-- A chain and three levels are found under their codes, a path with an empty segment is not. -/
theorem code_inverse_chain :
    ofCode? "#name.trim" = some (.chain "name.trim") ∧ code (.chain "name.trim") = "#name.trim" ∧
      ofCode? (code (.indent 3)) = some (.indent 3) ∧ ofCode? (code (.chain "a..b")) ≠ some (.chain "a..b") := by
  have hchain : ofCode? "#name.trim" = some (.chain "name.trim") := by decide
  have hempty : ¬ Path "a..b" := by
    rw [← isPath_iff]
    decide
  refine ⟨hchain, code_inverse.1 hchain, (code_inverse.2 (.indent 3)).mpr (by simp), fun h => ?_⟩
  exact hempty (((code_inverse.2 _).mp h).2.2 _ rfl)

end Action

/-! ## Selectors -/

namespace Selector

variable {s : Selector}

/-- The selectors that can be written into a marker. -/
inductive Printable : Selector → Prop
  | index {n : Nat} (le : n ≤ 0x7FFFFFFFFFFFFFFF) : Printable (.index n)
  | key {k : Text} (trimmed : Text.trim k = k) (nonempty : k ≠ []) (noInteger : Decimal.readLong? k = none)
      (inert : Inert k) : Printable (.key k)

lemma Printable.inert (h : s.Printable) : Inert s.text := by
  cases h with
  | @index n _ => exact (MarkerBody.bare_of_neutral fun c hc =>
      MarkerBody.neutral_of_isDigit ((Decimal.isDigits_ofNat n).2 c hc)).toInert
  | key _ _ _ inert => exact inert

/-- **A selector is read back.** -/
lemma Printable.parse?_text (h : s.Printable) : parse? s.text = some s := by
  cases h with
  | @index n le =>
      have hlong : Decimal.isLong n = true := Decimal.isLong_iff.mpr (by omega)
      exact parse?_ofInt hlong
  | @key k trimmed nonempty noInteger _ =>
      rw [text, parse?_of_word (by rwa [trimmed]) (by rwa [trimmed]), trimmed]

end Selector

end JavaSource
