import JavaSource.Proofs.Listing.Tidy

/-!
# Writing further in

What a fragment writes at some depth is what it writes at depth zero, with the indentation of that depth before each
line that is not blank.

**Side by side.**  `Listing.Raised i k l m` says that `m` is `l`, but `k` levels further in: its completed lines are those
of `l` behind the indentation of `k` levels, blank ones excepted, and both have the same line being written.  An
unfinished line carries no indentation yet; it gets its own when it is completed, and by then both listings have moved
by the same number of levels.  Text, line breaks and names keep the listings like this at once.

**Depth.**  Moving the depth keeps them like this only as long as neither listing is stopped, at zero or at the largest
depth there is.  A block that fits (`Fragment.nesting`) is not stopped on its way in.  Nor is it on its way out: its body
ends at the depth at which it began, unless it moves the depth by itself (`Fragment.Raised.emit` carries both along).

**Texts.**  The lines of a tidy listing are the lines of its text, so the relation shows in the texts
(`Listing.Raised.text_eq`).
-/

namespace JavaSource

/-! ## Texts further in -/

namespace Text

/-- A line behind an indentation; a blank line stays blank. -/
def indentLine (indentation line : Text) : Text := if line.isEmpty then [] else indentation ++ line

/-- The text with an indentation before each line that is not blank. -/
def indentLines (indentation t : Text) : Text := join "\n" ((t.splitOn '\n').map (indentLine indentation))

lemma indentLine_of_ne {indentation line : Text} (h : line ≠ []) : indentLine indentation line = indentation ++ line := by
  rw [indentLine, if_neg (by simpa using h)]

lemma indentLine_eq_nil_iff {indentation line : Text} : indentLine indentation line = [] ↔ line = [] := by
  cases line <;> simp [indentLine]

end Text

lemma Indent.levels_add (i : Indent) (k depth : Nat) : i.levels (depth + k) = i.levels k ++ i.levels depth := by
  rw [levels_eq_flatten, levels_eq_flatten, levels_eq_flatten, ← List.flatten_append, List.replicate_append_replicate,
    Nat.add_comm]

/-! ## Blocks -/

namespace Fragment

mutual

/-- Nothing in the fragment moves the depth, except for the bodies of its blocks. -/
def shiftFree : Fragment → Bool
  | .empty => true
  | .text _ => true
  | .name _ => true
  | .newline => true
  | .indent _ => false
  | .block _ body _ => shiftFreeAll body
  | .sequence parts => shiftFreeAll parts

/-- Nothing in the fragments moves the depth, except for the bodies of their blocks. -/
def shiftFreeAll : List Fragment → Bool
  | [] => true
  | f :: rest => shiftFree f && shiftFreeAll rest

end

mutual

/-- How deep the blocks of the fragment are nested. -/
def nesting : Fragment → Nat
  | .empty => 0
  | .text _ => 0
  | .name _ => 0
  | .newline => 0
  | .indent _ => 0
  | .block _ body _ => nestingAll body + 1
  | .sequence parts => nestingAll parts

/-- How deep the blocks of the fragments are nested. -/
def nestingAll : List Fragment → Nat
  | [] => 0
  | f :: rest => max (nesting f) (nestingAll rest)

end

end Fragment

namespace Listing

variable {i : Indent} {k : Nat} {l m : Listing}

/-! ## The depth -/

@[simp] lemma depth_newline (l : Listing) : l.newline.depth = l.depth := by
  unfold newline
  split
  · split <;> rfl
  · rfl

@[simp] lemma depth_appendChar (c : Char) (l : Listing) : (l.appendChar c).depth = l.depth := by
  unfold appendChar
  split
  · exact depth_newline l
  · rfl

@[simp] lemma depth_appendText (t : Text) (l : Listing) : (l.appendText t).depth = l.depth :=
  appendText_keeps depth_appendChar t l

@[simp] lemma depth_close (closing : Option Text) (l : Listing) : (Fragment.close closing l).depth = l.depth := by
  cases closing with
  | none => rfl
  | some t => rw [Fragment.close, depth_newline, depth_appendText]

lemma depth_shiftIn (h : l.depth + 1 ≤ Decimal.maxWord) : (l.shift 1).depth = l.depth + 1 := by
  simp only [shift, shiftDepth]
  omega

lemma depth_shiftOut {depth : Nat} (hinside : l.depth = depth + 1) (h : l.depth ≤ Decimal.maxWord) :
    (l.shift (-1)).depth = depth := by
  simp only [shift, shiftDepth]
  omega

/-! ## Two listings, one further in -/

lemma indented_ne_nil (h : l.line ≠ []) : l.indented ≠ [] := by
  simp [indented, h]

/-- The second listing is the first one, `k` levels of the indentation further in. -/
structure Raised (i : Indent) (k : Nat) (l m : Listing) : Prop where
  indent : l.indent = i
  indent_eq : m.indent = l.indent
  policy : m.policy = l.policy
  depth : m.depth = l.depth + k
  line : m.line = l.line
  lines : m.lines = l.lines.map (Text.indentLine (i.levels k))

namespace Raised

lemma push (h : Raised i k l m) (t : Text) : Raised i k (l.push t) (m.push t) :=
  ⟨h.indent, h.indent_eq, h.policy, h.depth, by simp only [Listing.push, h.line], h.lines⟩

lemma appendName (h : Raised i k l m) (n : Name) : Raised i k (l.appendName n) (m.appendName n) :=
  ⟨h.indent, h.indent_eq, h.policy, h.depth, by simp only [Listing.appendName, h.line, h.policy], h.lines⟩

/-- The line being written, with the indentation that it would get now. -/
lemma indented_eq (h : Raised i k l m) : m.indented = i.levels k ++ l.indented := by
  rw [indented, indented, h.indent_eq, h.indent, h.depth, h.line, Indent.levels_add, List.append_assoc]

/-- The last completed line is blank in both listings, or in none. -/
lemma getLast?_iff (h : Raised i k l m) : m.lines.getLast? = some [] ↔ l.lines.getLast? = some [] := by
  rw [h.lines, List.getLast?_map]
  cases l.lines.getLast? with
  | none => simp
  | some line => simp [Text.indentLine_eq_nil_iff]

lemma newline (h : Raised i k l m) : Raised i k l.newline m.newline := by
  simp only [Listing.newline, h.line]
  split
  · simp only [h.getLast?_iff]
    split
    · exact h
    · refine ⟨h.indent, h.indent_eq, h.policy, h.depth, rfl, ?_⟩
      simp only [List.map_append, h.lines]
      rfl
  · rename_i hline
    have hindented := indented_ne_nil (by simpa using hline)
    refine ⟨h.indent, h.indent_eq, h.policy, h.depth, rfl, ?_⟩
    rw [List.map_append, List.map_singleton, Text.indentLine_of_ne hindented, h.lines, h.indented_eq]

lemma appendChar (h : Raised i k l m) (c : Char) : Raised i k (l.appendChar c) (m.appendChar c) := by
  unfold Listing.appendChar
  split
  · exact h.newline
  · exact h.push [c]

lemma appendText (h : Raised i k l m) (t : Text) : Raised i k (l.appendText t) (m.appendText t) :=
  appendText_related (fun c _ _ h => h.appendChar c) t h

lemma close (h : Raised i k l m) (closing : Option Text) :
    Raised i k (Fragment.close closing l) (Fragment.close closing m) := by
  cases closing with
  | none => exact h
  | some t => exact (h.appendText t).newline

/-- One level further in, if there is one. -/
lemma shiftIn (h : Raised i k l m) (hroom : m.depth + 1 ≤ Decimal.maxWord) : Raised i k (l.shift 1) (m.shift 1) := by
  have hdepth := h.depth
  refine ⟨h.indent, h.indent_eq, h.policy, ?_, h.line, h.lines⟩
  rw [depth_shiftIn hroom, depth_shiftIn (by omega)]
  omega

/-- One level out again. -/
lemma shiftOut (h : Raised i k l m) {depth : Nat} (hinside : l.depth = depth + 1) (hroom : m.depth ≤ Decimal.maxWord) :
    Raised i k (l.shift (-1)) (m.shift (-1)) := by
  have hdepth : m.depth = (depth + k) + 1 := by
    rw [h.depth, hinside]
    omega
  refine ⟨h.indent, h.indent_eq, h.policy, ?_, h.line, h.lines⟩
  rw [depth_shiftOut hdepth hroom, depth_shiftOut hinside (by omega)]

mutual

/-- **A fragment that fits ends where it began**, and keeps one listing `k` levels further in than the other. -/
lemma emit : ∀ (f : Fragment) {l m : Listing}, f.shiftFree = true → m.depth + f.nesting ≤ Decimal.maxWord →
    Raised i k l m → Raised i k (f.emit l) (f.emit m) ∧ (f.emit l).depth = l.depth
  | .empty, _, _, _, _, h => by
      rw [Fragment.emit, Fragment.emit]
      exact ⟨h, rfl⟩
  | .text t, l, _, _, _, h => by
      simp only [Fragment.emit]
      exact ⟨h.appendText t, depth_appendText t l⟩
  | .name n, _, _, _, _, h => by
      simp only [Fragment.emit]
      exact ⟨h.appendName n, rfl⟩
  | .newline, l, _, _, _, h => by
      simp only [Fragment.emit]
      exact ⟨h.newline, depth_newline l⟩
  | .indent delta, _, _, hfree, _, _ => by simp [Fragment.shiftFree] at hfree
  | .block header body closing, l, m, hfree, hroom, h => by
      simp only [Fragment.shiftFree] at hfree
      simp only [Fragment.nesting] at hroom
      simp only [Fragment.emit]
      have hdepth := h.depth
      have hopened : ∀ {l : Listing}, l.depth + 1 ≤ Decimal.maxWord →
          (((l.appendText header).newline).shift 1).depth = l.depth + 1 := by
        intro l hl
        rw [depth_shiftIn (by simpa using hl), depth_newline, depth_appendText]
      have hopen := (h.appendText header).newline.shiftIn (by simp only [depth_newline, depth_appendText]; omega)
      obtain ⟨hbody, hbodyDepth⟩ := emitAll body hfree (by rw [hopened (by omega)]; omega) hopen
      rw [hopened (by omega)] at hbodyDepth
      have hroomOut := hbody.depth
      have hout := hbody.shiftOut hbodyDepth (by omega)
      exact ⟨hout.close closing, by rw [depth_close, depth_shiftOut hbodyDepth (by omega)]⟩
  | .sequence parts, _, _, hfree, hroom, h => by
      simp only [Fragment.emit]
      exact emitAll parts (by simpa only [Fragment.shiftFree] using hfree)
        (by simpa only [Fragment.nesting] using hroom) h

lemma emitAll : ∀ (fs : List Fragment) {l m : Listing}, Fragment.shiftFreeAll fs = true →
    m.depth + Fragment.nestingAll fs ≤ Decimal.maxWord → Raised i k l m →
      Raised i k (Fragment.emitAll fs l) (Fragment.emitAll fs m) ∧ (Fragment.emitAll fs l).depth = l.depth
  | [], _, _, _, _, h => by
      rw [Fragment.emitAll, Fragment.emitAll]
      exact ⟨h, rfl⟩
  | f :: rest, l, m, hfree, hroom, h => by
      simp only [Fragment.shiftFreeAll, Bool.and_eq_true] at hfree
      simp only [Fragment.nestingAll] at hroom
      simp only [Fragment.emitAll]
      obtain ⟨hfirst, hdepth⟩ := emit f hfree.1 (by omega) h
      have hdepth' : (f.emit m).depth = m.depth := by rw [hfirst.depth, hdepth, h.depth]
      obtain ⟨hrest, hrestDepth⟩ := emitAll rest hfree.2 (by omega) hfirst
      exact ⟨hrest, hrestDepth.trans hdepth⟩

end

/-! ## Texts -/

lemma lastLine_eq (h : Raised i k l m) : m.lastLine = Text.indentLine (i.levels k) l.lastLine := by
  unfold lastLine
  rw [h.line, h.indented_eq]
  split
  · rfl
  · rename_i hline
    rw [Text.indentLine_of_ne (indented_ne_nil (by simpa using hline))]

/-- **The text of a listing further in** is the other one's text with its lines indented. -/
lemma text_eq (h : Raised i k l m) (hl : l.Tidy) (hm : m.Tidy) :
    m.text = Text.indentLines (i.levels k) l.text := by
  have hjoin : m.text = Text.join "\n" (m.text.splitOn '\n') := (List.intercalate_splitOn '\n').symm
  rw [hjoin, hm.splitOn_text, Text.indentLines, hl.splitOn_text, h.lines, h.lastLine_eq, List.map_append,
    List.map_singleton]

end Raised

/-- An empty listing, and the same at depth zero. -/
lemma raised_of_isEmpty (h : l.isEmpty = true) : Raised l.indent l.depth { l with depth := 0 } l := by
  simp only [isEmpty, Bool.and_eq_true, List.isEmpty_iff] at h
  exact ⟨rfl, rfl, rfl, by simp, rfl, by simp [h.1]⟩

lemma tidy_of_isEmpty (h : l.isEmpty = true) : l.Tidy := by
  simp only [isEmpty, Bool.and_eq_true, List.isEmpty_iff] at h
  exact ⟨by simp [h.1], by simp [h.2], by simp [h.1]⟩

end Listing

namespace Fragment

/-- **Fragments are balanced, and depth is indentation.**  A fragment that does not move the depth by itself, and whose
blocks fit, ends at the depth at which it began.  Its text in an empty listing at some depth is its text at depth zero,
with the indentation repeated that many times before each line that is not blank. -/
theorem depth_is_indentation (f : Fragment) (hfree : f.shiftFree = true) (hnames : ∀ n ∈ f.names, n.Constructible)
    (l : Listing) (hl : l.isEmpty = true) (hroom : l.depth + f.nesting ≤ Decimal.maxWord) :
    (f.emit l).depth = l.depth ∧
      (f.emit l).text =
        Text.indentLines (List.replicate l.depth l.indent.unit).flatten (f.emit { l with depth := 0 }).text := by
  have tidy : ∀ l : Listing, l.isEmpty = true → (f.emit l).Tidy := by
    intro l hl
    exact Listing.simulation_tidy.emit f (m := l) (fun n hn => Name.constructible_iff.mp (hnames n hn))
      (Listing.tidy_of_isEmpty hl)
  obtain ⟨hraised, hdepth⟩ := Listing.Raised.emit f hfree hroom (Listing.raised_of_isEmpty hl)
  refine ⟨by rw [hraised.depth, hdepth, Nat.zero_add], ?_⟩
  rw [← Indent.levels_eq_flatten]
  exact hraised.text_eq (tidy _ hl) (tidy l hl)

/-- Two levels further in: nested blocks, blank lines, a line that is begun in a block and completed behind it, one that
is completed together with the closing text, and one that is not completed. -/
theorem depth_is_indentation_nested :
    let list : Name := ⟨["java", "util", "List"], 2, false⟩
    let inner : Fragment := .block "if (a) \x7b\n" [.name list, .text " b;"] none
    let f : Fragment := .sequence
      [.block "class A \x7b" [.text "int a;\n\n\n", inner, .newline, .text "c;"] (some "\x7d"), .text "end"]
    let l : Listing := { indent := .tab, policy := .constant .last, depth := 2 }
    f.shiftFree = true ∧ (∀ n ∈ f.names, n.Constructible) ∧ l.isEmpty = true ∧
      l.depth + f.nesting ≤ Decimal.maxWord ∧ (f.emit l).depth = 2 ∧
      (f.emit { l with depth := 0 }).text = "class A \x7b\n\tint a;\n\n\tif (a) \x7b\n\n\tList b;\nc;\x7d\nend" ∧
      (f.emit l).text = Text.indentLines "\t\t" (f.emit { l with depth := 0 }).text := by
  intro list inner f l
  have hfree : f.shiftFree = true := by decide
  have hlist : list.Constructible := .make (rfl : Name.make ["java", "util", "List"] 2 false = .ok list)
  have hnames : ∀ n ∈ f.names, n.Constructible := by
    simpa [f, inner, names, namesAll] using hlist
  have hroom : l.depth + f.nesting ≤ Decimal.maxWord := by decide
  obtain ⟨hdepth, htext⟩ := depth_is_indentation f hfree hnames l rfl hroom
  exact ⟨hfree, hnames, rfl, hroom, hdepth, by decide +kernel, htext⟩

end Fragment

end JavaSource
