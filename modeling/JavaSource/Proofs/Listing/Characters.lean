import Mathlib.Tactic.Common
import JavaSource.Listing.Basic

/-!
# Text is its characters

Text is appended in bulk: it is cut at its line breaks, the first part goes on the line being written, and each other
part on a line of its own.  This file shows that **nothing depends on the bulk**: the listing is the same as if the
characters had been appended one by one.

**One character in front.**  A line break in front of a text makes its first part empty, so that the line is completed as
it is; any other character becomes the beginning of the first part.  In both cases the character is appended and the text
behind it (`Listing.appendText_cons`).  Which line breaks are left out is not decided by the text alone but by the lines
that were completed before, so this holds of every listing, and is carried along the text from one listing to the next
(`Listing.appendText_eq_foldl`).

**Hence** it does not matter either into how many texts the characters were put (`Listing.appendText_append`), and what
every character leaves alone or keeps, text leaves alone or keeps (`Listing.appendText_keeps`,
`Listing.appendText_related`).
-/

namespace JavaSource.Listing

@[simp] lemma push_nil (l : Listing) : l.push [] = l := by
  simp only [push, List.append_nil]

lemma push_append (s t : Text) (l : Listing) : l.push (s ++ t) = (l.push s).push t := by
  simp only [push, List.append_assoc]

@[simp] lemma appendText_nil (l : Listing) : l.appendText [] = l := by
  simp only [appendText, List.splitOn_nil, List.foldl_nil, push_nil]

/-- Text without line breaks goes on the line being written. -/
lemma appendText_of_notMem {t : Text} (h : '\n' ∉ t) (l : Listing) : l.appendText t = l.push t := by
  simp only [appendText, List.splitOn_eq_singleton h, List.foldl_nil]

/-! ## One after the other -/

/-- **The first character is appended before the rest.** -/
lemma appendText_cons (c : Char) (t : Text) (l : Listing) : l.appendText (c :: t) = (l.appendChar c).appendText t := by
  obtain ⟨first, rest, hsplit⟩ := List.exists_cons_of_ne_nil (List.splitOn_ne_nil '\n' t)
  unfold appendText appendChar
  rw [List.splitOn_cons_eq_if_modifyHead, hsplit]
  by_cases hc : c = '\n'
  · simp only [hc, beq_self_eq_true, if_true, List.foldl_cons, push_nil]
  · simp only [beq_eq_false_iff_ne.mpr hc, hc, Bool.false_eq_true, if_false, List.modifyHead_cons]
    rw [← List.singleton_append, push_append]

lemma appendText_eq_foldl (t : Text) (l : Listing) : l.appendText t = t.foldl (fun l c => l.appendChar c) l := by
  induction t generalizing l with
  | nil => rw [appendText_nil, List.foldl_nil]
  | cons c t ih => rw [appendText_cons, ih, List.foldl_cons]

lemma appendText_append (s t : Text) (l : Listing) : l.appendText (s ++ t) = (l.appendText s).appendText t := by
  rw [appendText_eq_foldl, List.foldl_append, ← appendText_eq_foldl, ← appendText_eq_foldl]

/-! ## What text keeps -/

/-- What no character changes, no text changes. -/
lemma appendText_keeps {α : Type} {f : Listing → α} (hchar : ∀ (c : Char) (l : Listing), f (l.appendChar c) = f l)
    (t : Text) (l : Listing) : f (l.appendText t) = f l := by
  induction t generalizing l with
  | nil => rw [appendText_nil]
  | cons c t ih => rw [appendText_cons, ih, hchar]

/-- What every character keeps of two listings, text keeps. -/
lemma appendText_related {R : Listing → Listing → Prop}
    (hchar : ∀ (c : Char) {l m : Listing}, R l m → R (l.appendChar c) (m.appendChar c)) (t : Text) {l m : Listing}
    (h : R l m) : R (l.appendText t) (m.appendText t) := by
  rw [appendText_eq_foldl, appendText_eq_foldl]
  exact List.foldl_rel h fun c _ _ _ => hchar c

/-! ## Bulk -/

/-- **Text is its characters, one after the other**, whatever was written before: the completed lines, the line being
written, the depth and the log of names are the same.  So two texts, one after the other, are one text. -/
theorem text_appends_by_characters :
    (∀ (l : Listing) (s : Text), l.appendText s = s.foldl (fun l c => l.appendChar c) l) ∧
      ∀ (l : Listing) (s t : Text), (l.appendText s).appendText t = l.appendText (s ++ t) :=
  ⟨fun l s => appendText_eq_foldl s l, fun l s t => (appendText_append s t l).symm⟩

/-- The break at the seam counts like any other: of four breaks in a row two are left out, in bulk or not. -/
example : ((({} : Listing).appendText "a\n\n").appendText "\n\nb").text = "a\n\nb" ∧
    (("a\n\n\n\nb" : Text).foldl (fun l c => l.appendChar c) ({} : Listing)).text = "a\n\nb" := by decide

end JavaSource.Listing
