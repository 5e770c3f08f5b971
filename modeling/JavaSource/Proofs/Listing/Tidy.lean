import JavaSource.Import.Table
import JavaSource.TypeExpr
import JavaSource.Proofs.Listing.Simulation
import JavaSource.Proofs.Name.Construction

/-!
# Tidy listings

Whatever is done to a listing, **its lines are lines, and blank ones do not pile up**: no line contains a line break,
and no two blank lines follow each other.

**One operation.**  Only `newline` completes lines, and it leaves out a second blank one; text is pushed line by line.
What remains are names: no style spells a line break, since identifiers have none (`Style.newline_notMem_apply`).  So
tidiness is kept by the four basic operations (`simulation_tidy`), and with them by fragments, types and import
tables.

**A run.**  `Operation` lists all that can be done to a listing from outside; a sequence of operations keeps what each
of them keeps.

**The text.**  The lines of a tidy listing are the lines of its text (`Tidy.splitOn_text`).  Hence three line breaks in
a row, or two at the beginning, would be two blank lines in a row.
-/

namespace JavaSource

/-- No style spells a line break. -/
lemma Style.newline_notMem_apply {n : Name} (hn : n.WellFormed) (s : Style) : '\n' ∉ s.apply n := by
  rw [apply_eq_join]
  intro h
  rcases Text.mem_join h with h | ⟨i, hi, h⟩
  · revert h
    decide
  · exact Identifier.notMem_of_isPart (by decide) (hn.valid i (parts_subset hn s hi)) h

namespace Listing

variable {l : Listing}

/-! ## Tidiness is kept -/

/-- No line contains a line break, and no two blank lines follow each other. -/
structure Tidy (l : Listing) : Prop where
  lines : ∀ line ∈ l.lines, '\n' ∉ line
  line : '\n' ∉ l.line
  blanks : ¬ [[], []] <:+: l.lines

lemma newline_notMem_indented (h : '\n' ∉ l.line) : '\n' ∉ l.indented := by
  have hlevels : '\n' ∉ l.indent.levels l.depth := by
    cases l.indent with
    | spaces width => simp [Indent.levels]
    | tab => simp [Indent.levels]
  rw [indented, List.mem_append, not_or]
  exact ⟨hlevels, h⟩

/-- Behind lines that are tidy, a line may be completed if it and the one before it are not both blank. -/
lemma two_blanks_append {lines : List Text} {line : Text} (h : ¬ [[], []] <:+: lines)
    (hline : line = [] → lines.getLast? ≠ some []) : ¬ [[], []] <:+: lines ++ [line] := by
  rw [List.infix_concat_iff, not_or]
  refine ⟨?_, h⟩
  rintro ⟨front, hfront⟩
  have hparts : front ++ [[]] = lines ∧ [] = line := by
    have hfront' : (front ++ [[]]) ++ [[]] = lines ++ [line] := by simpa using hfront
    simpa using List.append_inj' hfront' rfl
  obtain ⟨rfl, rfl⟩ := hparts
  exact hline rfl (by simp)

lemma Tidy.newline (h : l.Tidy) : l.newline.Tidy := by
  unfold Listing.newline
  split
  · split
    · exact h
    · rename_i hlast
      refine ⟨?_, h.line, two_blanks_append h.blanks fun _ => hlast⟩
      simpa [or_imp, forall_and] using h.lines
  · rename_i hline
    have hindented := newline_notMem_indented h.line
    refine ⟨?_, by simp, two_blanks_append h.blanks fun hnil => ?_⟩
    · simpa [or_imp, forall_and] using ⟨h.lines, hindented⟩
    · simp_all [indented]

/-- **The basic operations keep a listing tidy.** -/
lemma simulation_tidy : Simulation Name.WellFormed (fun l _ => l.Tidy) where
  push := by
    intro l _ t ht h
    refine ⟨h.lines, ?_, h.blanks⟩
    rw [push, List.mem_append, not_or]
    exact ⟨h.line, ht⟩
  newline := Tidy.newline
  shift := fun _ h => ⟨h.lines, h.line, h.blanks⟩
  appendName := by
    intro l _ n hn h
    refine ⟨h.lines, ?_, h.blanks⟩
    rw [appendName, List.mem_append, not_or]
    exact ⟨h.line, Style.newline_notMem_apply hn _⟩

/-! ## Operations -/

/-- What can be done to a listing.  Names are constructible, also those inside of fragments and types. -/
inductive Operation where
  | appendText (t : Text)
  | appendChar (c : Char)
  | newline
  | shift (delta : Int)
  | appendName (n : Name) (hn : n.Constructible)
  | setPolicy (policy : Policy)
  | emitFragment (f : Fragment) (hf : ∀ n ∈ f.names, n.Constructible)
  | emitType (t : TypeExpr) (ht : ∀ n ∈ t.fragment.names, n.Constructible)
  | emitImports (t : ImportTable)
  | drain

/-- Carries out an operation. -/
def Operation.run (l : Listing) : Operation → Listing
  | .appendText t => l.appendText t
  | .appendChar c => l.appendChar c
  | .newline => l.newline
  | .shift delta => l.shift delta
  | .appendName n _ => l.appendName n
  | .setPolicy policy => l.withPolicy policy
  | .emitFragment f _ => f.emit l
  | .emitType t _ => t.fragment.emit l
  | .emitImports t => t.fragment.emit l
  | .drain => l.drained

/-- Import declarations are written as text. -/
lemma names_importTable (t : ImportTable) : t.fragment.names = [] := by
  have lines : ∀ imports : List Import, Fragment.namesAll (imports.map fun i => .line i.text) = [] := by
    intro imports
    induction imports with
    | nil => rfl
    | cons i rest ih =>
        have hline : (Fragment.line i.text).names = [] := by simp [Fragment.line, Fragment.names, Fragment.namesAll]
        rw [List.map_cons, Fragment.namesAll, hline, ih]
        rfl
  exact lines t.declarations

/-- **One operation** keeps a listing tidy. -/
lemma Tidy.run (h : l.Tidy) (op : Operation) : (op.run l).Tidy := by
  have emitted : ∀ f : Fragment, (∀ n ∈ f.names, n.Constructible) → (f.emit l).Tidy := by
    intro f hf
    exact simulation_tidy.emit f (m := l) (fun n hn => Name.constructible_iff.mp (hf n hn)) h
  cases op with
  | appendText t => exact simulation_tidy.appendText t (m := l) h
  | appendChar c => exact simulation_tidy.appendChar c (m := l) h
  | newline => exact h.newline
  | shift delta => exact ⟨h.lines, h.line, h.blanks⟩
  | appendName n hn => exact simulation_tidy.appendName (m := l) (Name.constructible_iff.mp hn) h
  | setPolicy policy => exact ⟨h.lines, h.line, h.blanks⟩
  | emitFragment f hf => exact emitted f hf
  | emitType t ht => exact emitted t.fragment ht
  | emitImports t => exact emitted t.fragment (by simp [names_importTable])
  | drain => exact ⟨h.lines, h.line, h.blanks⟩

/-- **A sequence of operations** keeps a listing tidy. -/
lemma Tidy.foldl_run : ∀ (ops : List Operation) {l : Listing}, l.Tidy → (ops.foldl Operation.run l).Tidy
  | [], _, h => h
  | op :: ops, _, h => foldl_run ops (h.run op)

/-! ## The text of a tidy listing -/

/-- The line being written, as it stands in the text. -/
def lastLine (l : Listing) : Text := if l.line.isEmpty then [] else l.indented

lemma splitOn_lines : ∀ {lines : List Text} {last : Text}, (∀ line ∈ lines, '\n' ∉ line) → '\n' ∉ last →
    (lines.flatMap (fun line => line ++ ['\n']) ++ last).splitOn '\n' = lines ++ [last]
  | [], _, _, hlast => List.splitOn_eq_singleton hlast
  | line :: rest, last, hlines, hlast => by
      obtain ⟨hline, hrest⟩ := List.forall_mem_cons.mp hlines
      rw [List.flatMap_cons, List.append_assoc, List.append_assoc, List.singleton_append,
        List.splitOn_append_cons_self_of_not_mem hline, splitOn_lines hrest hlast, List.cons_append]

lemma Tidy.newline_notMem_lastLine (h : l.Tidy) : '\n' ∉ l.lastLine := by
  unfold lastLine
  split
  · exact List.not_mem_nil
  · exact newline_notMem_indented h.line

/-- The lines of a tidy listing are the lines of its text. -/
lemma Tidy.splitOn_text (h : l.Tidy) : l.text.splitOn '\n' = l.lines ++ [l.lastLine] :=
  splitOn_lines h.lines h.newline_notMem_lastLine

/-- Two blank lines, and at least one line behind them, do not occur in the text of a tidy listing. -/
lemma Tidy.splitOn_text_ne (h : l.Tidy) {front rest : List Text} (hrest : rest ≠ []) :
    l.text.splitOn '\n' ≠ front ++ [[], []] ++ rest := by
  intro hsplit
  rw [h.splitOn_text, ← List.dropLast_concat_getLast hrest, ← List.append_assoc] at hsplit
  obtain ⟨hlines, -⟩ := List.append_inj' hsplit rfl
  exact h.blanks ⟨front, rest.dropLast, hlines.symm⟩

lemma splitOn_two_breaks (t : Text) : ('\n' :: '\n' :: t).splitOn '\n' = [[], []] ++ t.splitOn '\n' := by
  simp [List.splitOn_cons_eq_if_modifyHead]

/-- **However a listing was written**, none of its lines contains a line break and no two blank lines follow each other.
So its text has no three line breaks in a row and does not begin with two. -/
theorem operations_keep_tidy (indent : Indent) (ops : List Operation) :
    let l := ops.foldl Operation.run (withIndent indent)
    (∀ line ∈ l.lines, '\n' ∉ line) ∧ '\n' ∉ l.line ∧ ¬ [[], []] <:+: l.lines ∧
      ¬ ['\n', '\n', '\n'] <:+: l.text ∧ ¬ ['\n', '\n'] <+: l.text := by
  intro l
  have h : l.Tidy := Tidy.foldl_run ops ⟨by simp [withIndent], by simp [withIndent], by simp [withIndent]⟩
  refine ⟨h.lines, h.line, h.blanks, ?_, ?_⟩
  · rintro ⟨front, rest, htext⟩
    have hsplit : l.text.splitOn '\n' = front.splitOn '\n' ++ [[], []] ++ rest.splitOn '\n' := by
      rw [← htext, List.append_assoc, List.append_assoc, ← splitOn_two_breaks]
      exact List.splitOn_append_cons_self front _
    exact h.splitOn_text_ne (List.splitOn_ne_nil _ _) hsplit
  · rintro ⟨rest, htext⟩
    have hsplit : l.text.splitOn '\n' = [] ++ [[], []] ++ rest.splitOn '\n' := by
      rw [← htext]
      exact splitOn_two_breaks rest
    exact h.splitOn_text_ne (List.splitOn_ne_nil _ _) hsplit

end Listing

end JavaSource
