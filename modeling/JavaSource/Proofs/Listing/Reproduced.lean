import JavaSource.Proofs.Listing.Depth
import JavaSource.Proofs.Text.Runs

/-!
# Text, reproduced

What a listing makes of literal text: the same text, without most of the blank lines, and indented.

**One character.**  At depth zero nothing is written before a line, so a character adds itself to the text of the
listing, unless it is a line break too many.  How many line breaks may still follow is read off the listing
(`Listing.room`): none after a blank line, one at the beginning of any other line, two inside of a line.

**A text.**  Hence appending a text adds what is left of it if line breaks are cut (`Listing.text_appendText_of_depth`).
Any other depth is depth zero further in.

**A text that was written before.**  The text of a listing has no line breaks too many.  Appended to a fresh listing it
gives back the completed lines, and as the line being written the one of the first listing behind its indentation
(`Listing.Tidy.appendText_text`).
-/

namespace JavaSource.Listing

variable {l : Listing}

/-- How many line breaks may follow before one is left out. -/
def room (l : Listing) : Nat := if l.line.isEmpty then if l.lines.getLast? = some [] then 0 else 1 else 2

lemma room_push {t : Text} (ht : t ≠ []) (l : Listing) : (l.push t).room = 2 := by
  simp [room, push, ht]

lemma room_newline (l : Listing) : l.newline.room = l.room - 1 := by
  cases hline : l.line with
  | nil =>
      by_cases hlast : l.lines.getLast? = some []
      · simp [newline, room, hline, hlast]
      · simp [newline, room, hline, hlast]
  | cons c cs => simp [newline, room, indented, hline]

/-! ## At depth zero -/

lemma indented_of_depth (h : l.depth = 0) : l.indented = l.line := by
  rw [indented, h, Indent.levels_eq_flatten, List.replicate_zero, List.flatten_nil, List.nil_append]

/-- Without indentation the line being written needs no special treatment. -/
lemma text_of_depth (h : l.depth = 0) : l.text = l.lines.flatMap (fun line => line ++ ['\n']) ++ l.line := by
  rw [text, indented_of_depth h]
  cases l.line <;> rfl

lemma text_push (h : l.depth = 0) (t : Text) : (l.push t).text = l.text ++ t := by
  rw [text_of_depth (l := l.push t) h, text_of_depth h]
  simp only [push, List.append_assoc]

lemma text_newline (h : l.depth = 0) : l.newline.text = l.text ++ if l.room = 0 then [] else ['\n'] := by
  rw [text_of_depth (l := l.newline) (by rw [depth_newline, h]), text_of_depth h]
  cases hline : l.line with
  | nil =>
      by_cases hlast : l.lines.getLast? = some []
      · simp [newline, room, hline, hlast]
      · simp [newline, room, hline, hlast]
  | cons c cs => simp [newline, room, indented_of_depth h, hline]

/-- **Text adds to the text of the listing what its line breaks leave of it.** -/
lemma text_appendText_of_depth (t : Text) {l : Listing} (h : l.depth = 0) :
    (l.appendText t).text = l.text ++ Text.squeezeFrom l.room t := by
  induction t generalizing l with
  | nil => simp [Text.squeezeFrom]
  | cons c t ih =>
      rw [appendText_cons, ih (by rw [depth_appendChar, h]), Text.squeezeFrom, appendChar]
      split
      · rw [text_newline h, room_newline, List.append_assoc]
      · rw [text_push h, room_push (List.cons_ne_nil c []), List.append_assoc, List.singleton_append]

/-! ## Written again -/

/-- At depth zero a line is completed as it is, unless it is one blank line too many. -/
lemma newline_push (hdepth : l.depth = 0) (hline : l.line = []) {line : Text}
    (hblank : line = [] → l.lines.getLast? ≠ some []) :
    (l.push line).newline = { l with lines := l.lines ++ [line] } := by
  cases line with
  | nil => simp [newline, push, hline, hblank rfl]
  | cons c cs =>
      have hindented : (l.push (c :: cs)).indented = c :: cs := by
        rw [indented_of_depth (l := l.push (c :: cs)) hdepth, push, hline, List.nil_append]
      simp only [newline, hindented]
      simp [push, hline]

/-- Lines are completed one after the other. -/
lemma appendText_lines : ∀ {lines : List Text} {l : Listing}, l.depth = 0 → l.line = [] → (∀ line ∈ lines, '\n' ∉ line) →
    ¬ [[], []] <:+: l.lines ++ lines →
      l.appendText (lines.flatMap fun line => line ++ ['\n']) = { l with lines := l.lines ++ lines }
  | [], l, _, _, _, _ => by rw [List.flatMap_nil, appendText_nil, List.append_nil]
  | line :: rest, l, hdepth, hline, hbreaks, hblanks => by
      obtain ⟨hfirst, hrest⟩ := List.forall_mem_cons.mp hbreaks
      have hblank : line = [] → l.lines.getLast? ≠ some [] := by
        rintro rfl hlast
        obtain ⟨front, hfront⟩ := List.getLast?_eq_some_iff.mp hlast
        exact hblanks ⟨front, rest, by simp [hfront]⟩
      have hone : l.appendText (line ++ ['\n']) = { l with lines := l.lines ++ [line] } := by
        rw [appendText_append, appendText_of_notMem hfirst, appendText_cons, appendText_nil, appendChar, if_pos rfl,
          newline_push hdepth hline hblank]
      have hnext := appendText_lines (l := { l with lines := l.lines ++ [line] }) hdepth hline hrest (by simpa using hblanks)
      rw [List.flatMap_cons, appendText_append, hone, hnext]
      simp

/-- **The text of a listing, appended to a fresh one, gives back its lines.** -/
lemma Tidy.appendText_text (h : l.Tidy) :
    ({} : Listing).appendText l.text = { lines := l.lines, line := l.lastLine } := by
  have hlines : ({} : Listing).appendText (l.lines.flatMap fun line => line ++ ['\n']) = { lines := l.lines } :=
    appendText_lines rfl rfl h.lines h.blanks
  have htext : l.text = (l.lines.flatMap fun line => line ++ ['\n']) ++ l.lastLine := rfl
  rw [htext, appendText_append, hlines, appendText_of_notMem h.newline_notMem_lastLine]
  rfl

/-- Hence it is the text of that listing too, although the two need not stand at the same depth. -/
lemma Tidy.text_appendText_text (h : l.Tidy) : (({} : Listing).appendText l.text).text = l.text := by
  rw [h.appendText_text, text_of_depth rfl]
  rfl

/-! ## At any depth -/

/-- **Literal text is reproduced**, up to blank lines and indentation.  In a fresh listing at depth `d`, a run of line
breaks is cut to one at the beginning of the text and to two anywhere else, and each line that is not blank stands behind
`d` times the indentation, also the one that is not completed. -/
theorem text_reproduced (i : Indent) (d : Nat) (hd : d ≤ Decimal.maxWord) (s : Text) :
    (((withIndent i).shift d).appendText s).text =
      Text.indentLines (List.replicate d i.unit).flatten (Text.squeeze s) := by
  have hdepth : ((withIndent i).shift d).depth = d := by
    simp only [shift, shiftDepth, withIndent]
    omega
  have hempty : ((withIndent i).shift d).isEmpty = true := rfl
  have hraised := (raised_of_isEmpty hempty).appendText s
  have htidy : ∀ l : Listing, l.isEmpty = true → (l.appendText s).Tidy := fun l hl =>
    simulation_tidy.appendText s (m := l) (tidy_of_isEmpty hl)
  have hfresh : ((withIndent i).appendText s).text = Text.squeeze s := by
    rw [text_appendText_of_depth s rfl, ← Text.squeezeFrom_one]
    rfl
  rw [hraised.text_eq (htidy _ rfl) (htidy _ hempty), hdepth, ← Indent.levels_eq_flatten]
  exact congrArg _ hfresh

/-- Line breaks in a row at the beginning, inside of the text and at its end, and a line that is not completed. -/
theorem text_reproduced_blanks :
    let s : Text := "\n\n\na\n\n\n\n b\nc"
    2 ≤ Decimal.maxWord ∧ Text.squeeze s = "\na\n\n b\nc" ∧ Text.squeeze (s ++ "\n\n\n") = "\na\n\n b\nc\n\n" ∧
      (((withIndent (.spaces 1)).shift 2).appendText s).text = Text.indentLines "  " (Text.squeeze s) ∧
      (((withIndent (.spaces 1)).shift 2).appendText s).text = "\n  a\n\n   b\n  c" := by
  intro s
  have hdepth : 2 ≤ Decimal.maxWord := by decide
  have htext := text_reproduced (.spaces 1) 2 hdepth s
  refine ⟨hdepth, by decide +kernel, by decide +kernel, htext, htext.trans ?_⟩
  decide +kernel

end JavaSource.Listing
