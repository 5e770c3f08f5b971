import Mathlib.Data.List.Chain
import JavaSource.Proofs.Template.Codes
import JavaSource.Proofs.Template.Grammar

/-!
# Templates are read back

An instruction is written as its text, or as a marker with the code of its action and its selector.  This file shows
that a sequence of instructions, written one after the other with the default delimiters, is read as the same sequence.

**Markers.**  The body of a written marker means what was written: it has no comment, its first colon is the one behind
the code, and the delimiter behind it is the first one from its beginning.

**Sequences.**  A text without an opening brace, together with the marker behind it, is a segment; so the written
instructions have a division that yields them.  It is built from the right, one marker at a time, and the grammar of
templates says that it is read as what it yields.  Two texts in a row would be read as one, and are excluded.
-/

namespace JavaSource

open MarkerBody (Inert)

/-! ## Written instructions -/

/-- An instruction without its place in a source. -/
inductive Content where
  | text (t : Text)
  | marker (action : Action) (selector : Option Selector)
deriving DecidableEq

/-- What the instruction does, wherever it was read. -/
def Instruction.content : Instruction → Content
  | .text t => .text t
  | .marker m => .marker m.action m.selector

/-- The body of a marker as it is written: the code, and the selector behind a colon. -/
def MarkerBody.written (a : Action) : Option Selector → Text
  | none => a.code
  | some s => a.code ++ ':' :: s.text

namespace Content

/-- The instruction as it is written, with the default delimiters. -/
def written : Content → Text
  | .text t => t
  | .marker a s => Markers.enclose {} (MarkerBody.written a s)

/-- The instruction can be written and read back. -/
inductive Printable : Content → Prop
  | text {t : Text} (nonempty : t ≠ []) (brace : '\x7b' ∉ t) : Printable (.text t)
  | marker {a : Action} {selector : Option Selector} (action : a.Printable) (selected : ∀ s ∈ selector, s.Printable) :
      Printable (.marker a selector)

/-- The instructions are not both texts. -/
def Apart : Content → Content → Prop
  | .text _, .text _ => False
  | _, _ => True

end Content

/-! ## Markers -/

namespace MarkerBody

variable {a : Action} {selector : Option Selector}

lemma inert_written (ha : a.Printable) (hs : ∀ s ∈ selector, s.Printable) : Inert (written a selector) := by
  cases selector with
  | none => exact ha.bare.toInert
  | some s =>
      have hsInert := (hs s rfl).inert
      constructor
      · simp [written, ha.bare.open_ended, hsInert.open_ended]
      · intro hslashes
        rcases Text.infix_append_cons (by decide) hslashes with h | h
        · exact ha.bare.uncommented h
        · exact hsInert.uncommented h

/-- **A written marker means what was written.** -/
lemma meaning_written (ha : a.Printable) (hs : ∀ s ∈ selector, s.Printable) :
    Meaning (written a selector) ⟨a.code, selector, false⟩ := by
  have hcomment : Text.Cuts "//" (written a selector) (written a selector) none :=
    .absent (inert_written ha hs).uncommented
  have htrim : Text.trim a.code = a.code := Text.trim_eq_self ha.bare.unblank
  cases selector with
  | none =>
      have hcolon : Text.Cuts ":" a.code a.code none :=
        .absent fun h => ha.bare.colon_notMem (h.subset (List.mem_singleton_self ':'))
      have h := Meaning.intro hcomment hcolon
      rwa [htrim] at h
  | some s =>
      have hfirst : Text.FirstAt ":" (a.code ++ ":" ++ s.text) a.code.length :=
        (Text.firstAt_append_iff s.text).mpr (Text.firstAt_of_notMem ha.bare.colon_notMem)
      have hwritten : written a (some s) = a.code ++ ":" ++ s.text := by simp [written]
      have hcolon : Text.Cuts ":" (written a (some s)) a.code (some s.text) := hwritten ▸ .found hfirst
      have h := Meaning.intro hcomment hcolon
      rwa [htrim, Option.bind_some, (hs s rfl).parse?_text] at h

end MarkerBody

/-! ## Sequences -/

namespace Content

variable {t : Text} {a : Action} {selector : Option Selector} {rest : List Content}

/-- A text without opening braces and the marker behind it, as a segment. -/
def segment (ht : '\x7b' ∉ t) (ha : a.Printable) (hs : ∀ s ∈ selector, s.Printable) : Segment {} where
  literal := t
  body := MarkerBody.written a selector
  opening_first := by
    rw [Markers.enclose, ← List.append_assoc, ← List.append_assoc, List.append_assoc (t ++ _)]
    exact (Text.firstAt_append_iff _).mpr (Text.firstAt_of_notMem ht)
  ending_first := Text.firstAt_of_notMem (MarkerBody.inert_written ha hs).open_ended

/-- The contents for a literal text; an empty one has none. -/
def ofLiteral (t : Text) : List Content := (Instruction.ofLiteral t).map Instruction.content

/-- Written behind the text `before`, the instructions have a division that yields them. -/
def Divisible (before : Text) (contents : List Content) : Prop :=
  ∃ (d : Division {}) (leading : List Instruction), d.source = contents.flatMap written ∧
    Segment.Yield before d.segments leading ∧
    (leading ++ Instruction.ofLiteral d.rest).map Instruction.content = contents

lemma ofLiteral_of_ne_nil (h : t ≠ []) : ofLiteral t = [.text t] := by
  rw [ofLiteral, Instruction.ofLiteral, if_neg (mt List.isEmpty_iff.mp h)]
  rfl

lemma flatMap_ofLiteral (t : Text) : (ofLiteral t).flatMap written = t := by
  cases t with
  | nil => rfl
  | cons c cs => rw [ofLiteral_of_ne_nil (List.cons_ne_nil c cs), List.flatMap_singleton, written]

/-- A text without opening braces is the rest of a division. -/
lemma divisible_ofLiteral (before : Text) (ht : '\x7b' ∉ t) : Divisible before (ofLiteral t) := by
  have hplain : ¬ ({} : Markers).opening <:+: t := fun h => ht (h.subset (by decide))
  refine ⟨⟨[], t, hplain⟩, [], ?_, .nil, rfl⟩
  rw [flatMap_ofLiteral]
  rfl

/-- **One marker more.**  A text and a marker in front of what can be divided are a segment in front of its division. -/
lemma Divisible.cons (before : Text) (ht : '\x7b' ∉ t) (ha : a.Printable) (hs : ∀ s ∈ selector, s.Printable)
    (hrest : ∀ before, Divisible before rest) : Divisible before (ofLiteral t ++ .marker a selector :: rest) := by
  have hmarker : Markers.StandsFor {} (before ++ t) (MarkerBody.written a selector) _ :=
    .action (MarkerBody.meaning_written ha hs) ha.ofCode?_code
  obtain ⟨d, leading, hsource, hyield, hcontent⟩ := hrest (before ++ (segment ht ha hs).source)
  refine ⟨⟨segment ht ha hs :: d.segments, d.rest, d.rest_plain⟩, _, ?_, .cons hmarker hyield, ?_⟩
  · rw [List.flatMap_append, List.flatMap_cons, flatMap_ofLiteral, ← hsource, Division.source, Segment.sources_cons]
    simp only [Division.source, Segment.source, segment, written, List.append_assoc]
  · rw [List.append_assoc, List.append_assoc, List.map_append, List.map_append, hcontent]
    rfl

/-- **Written instructions can be divided**, if no two texts stand next to each other. -/
lemma divisible : ∀ {contents : List Content}, (∀ c ∈ contents, c.Printable) → contents.IsChain Apart →
    ∀ before, Divisible before contents
  | [], _, _, before => divisible_ofLiteral before (t := []) List.not_mem_nil
  | [.text t], hprintable, _, before => by
      obtain ⟨hne, hbrace⟩ := hprintable (.text t) (List.mem_singleton_self _)
      rw [← ofLiteral_of_ne_nil hne]
      exact divisible_ofLiteral before hbrace
  | .text _ :: .text _ :: _, _, hapart, _ => False.elim (List.isChain_cons_cons.mp hapart).1
  -- a segment ends with its marker, so a text is taken together with the marker behind it
  | .text t :: .marker a s :: rest, hprintable, hapart, before => by
      obtain ⟨⟨hne, hbrace⟩, hprintable⟩ := List.forall_mem_cons.mp hprintable
      obtain ⟨_ | ⟨ha, hs⟩, hprintable⟩ := List.forall_mem_cons.mp hprintable
      have hrest := divisible hprintable hapart.tail.tail
      have h := Divisible.cons before hbrace ha hs hrest
      rwa [ofLiteral_of_ne_nil hne] at h
  | .marker a s :: rest, hprintable, hapart, before => by
      obtain ⟨_ | ⟨ha, hs⟩, hprintable⟩ := List.forall_mem_cons.mp hprintable
      exact Divisible.cons before (t := []) List.not_mem_nil ha hs (divisible hprintable hapart.tail)

end Content

namespace Template

/-- **Writing instructions and reading them back** gives the same texts, actions and selectors in the same order. -/
theorem parse_written (instructions : List Instruction) (hprintable : ∀ i ∈ instructions, i.content.Printable)
    (hapart : (instructions.map Instruction.content).IsChain Content.Apart) :
    ∃ t, parse (instructions.flatMap fun i => i.content.written) {} = .ok t ∧
      t.instructions.map Instruction.content = instructions.map Instruction.content := by
  have hcontents : ∀ c ∈ instructions.map Instruction.content, c.Printable := List.forall_mem_map.mpr hprintable
  obtain ⟨d, leading, hsource, hyield, hcontent⟩ := Content.divisible hcontents hapart []
  have hparse := parse_of_yields (m := {}) (by decide) (by decide) ⟨leading, hyield, rfl⟩
  rw [hsource, List.flatMap_map] at hparse
  exact ⟨_, hparse, hcontent⟩

/-- Braces, colons and slashes where they do no harm: in a text, in a path and in a key. -/
theorem parse_written_hard :
    let instructions : List Instruction := [.text "é\x7d\x7d ",
      .marker ⟨.chain "a/.b-c", "", some (.key "k: \x7b/x"), 0, 0⟩, .marker ⟨.indent 3, "", none, 0, 0⟩,
      .text "\x7d", .marker ⟨.name, "", some (.index 9223372036854775807), 0, 0⟩]
    let source : Text := "é\x7d\x7d \x7b\x7b#a/.b-c:k: \x7b/x\x7d\x7d\x7b\x7b>>>\x7d\x7d\x7d" ++
      "\x7b\x7bN:9223372036854775807\x7d\x7d"
    (∀ i ∈ instructions, i.content.Printable) ∧ (instructions.map Instruction.content).IsChain Content.Apart ∧
      ∃ t, parse source {} = .ok t ∧
        t.instructions.map Instruction.content = instructions.map Instruction.content := by
  intro instructions source
  have hpath : Action.Path "a/.b-c" := ⟨["a/", "b-c"], by decide, by decide, by decide⟩
  have hkey : (Selector.key "k: \x7b/x").Printable :=
    .key (by decide) (by decide) (by decide) ⟨by decide, by decide +kernel⟩
  have hprintable : ∀ i ∈ instructions, i.content.Printable := by
    simp only [instructions, List.forall_mem_cons]
    refine ⟨.text (by decide) (by decide), .marker (.chain hpath (by decide) ⟨by decide, by decide +kernel⟩) ?_,
      .marker (.indent (by decide)) (by simp), .text (by decide) (by decide), .marker (.fixed (by decide)) ?_, by simp⟩
    · rintro s ⟨⟩
      exact hkey
    · rintro s ⟨⟩
      exact .index (by decide)
  have hapart : (instructions.map Instruction.content).IsChain Content.Apart := by
    simp [instructions, Instruction.content, Content.Apart]
  have hsource : (instructions.flatMap fun i => i.content.written) = source := by decide +kernel
  refine ⟨hprintable, hapart, ?_⟩
  rw [← hsource]
  exact parse_written instructions hprintable hapart

end Template

end JavaSource
