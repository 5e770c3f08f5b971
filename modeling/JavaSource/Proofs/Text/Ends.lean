import JavaSource.Proofs.Text.Occurrence

/-!
# The ends of a text

What is read from outside is first freed of the blanks at both ends, and then of a beginning or an ending that may be
there.  This file says when nothing is cut off: a text that neither begins nor ends with a blank is not trimmed
(`trim_eq_self_of_ends`), so trimming once is enough (`trim_trim`), and an ending with a character that the text lacks is
not found (`before?_eq_none`).
-/

namespace JavaSource.Text

variable {t ending : Text}

/-! ## Blanks -/

/-- **Blanks inside of a text are not cut off.** -/
lemma trim_eq_self_of_ends (hhead : ∀ c ∈ t.head?, Unicode.isBlank c = false)
    (hlast : ∀ c ∈ t.getLast?, Unicode.isBlank c = false) : trim t = t := by
  have dropWhile_eq : ∀ {s : Text}, (∀ c ∈ s.head?, Unicode.isBlank c = false) → s.dropWhile Unicode.isBlank = s := by
    intro s hs
    cases s with
    | nil => rfl
    | cons c cs => exact List.dropWhile_cons_of_neg (by simp [hs c rfl])
  rw [trim, dropWhile_eq hhead, trimEnd, dropWhile_eq (by rwa [List.head?_reverse]), List.reverse_reverse]

lemma trim_eq_self (h : ∀ c ∈ t, Unicode.isBlank c = false) : trim t = t :=
  trim_eq_self_of_ends (fun c hc => h c (List.mem_of_mem_head? hc)) (fun c hc => h c (List.mem_of_mem_getLast? hc))

lemma isBlank_of_mem_head?_dropWhile {c : Char} (h : c ∈ (t.dropWhile Unicode.isBlank).head?) :
    Unicode.isBlank c = false := by
  have hhead := List.head?_dropWhile_not Unicode.isBlank t
  rwa [Option.mem_def.mp h] at hhead

/-- **What was trimmed has no blanks at its ends.** -/
@[simp] lemma trim_trim (t : Text) : trim (trim t) = trim t := by
  refine trim_eq_self_of_ends (fun c hc => ?_) (fun c hc => ?_)
  · -- The head is that of the text before blanks were cut off its end.
    obtain ⟨blanks, hblanks⟩ : trim t <+: t.dropWhile Unicode.isBlank := by
      rw [trim, trimEnd, ← List.reverse_suffix, List.reverse_reverse]
      exact List.dropWhile_suffix _
    refine isBlank_of_mem_head?_dropWhile (t := t) ?_
    rw [← hblanks, List.head?_append, Option.mem_def.mp hc]
    rfl
  · rw [trim, trimEnd, List.getLast?_reverse] at hc
    exact isBlank_of_mem_head?_dropWhile hc

/-! ## Endings -/

@[simp] lemma before?_append (t ending : Text) : before? ending (t ++ ending) = some t := by
  rw [before?, List.reverse_append, after?_append, Option.map_some, List.reverse_reverse]

lemma before?_eq_none {c : Char} (hc : c ∈ ending) (h : c ∉ t) : before? ending t = none := by
  rw [before?, Option.map_eq_none_iff, after?_eq_none_iff]
  intro hstart
  exact h (List.mem_reverse.mp (hstart.subset (List.mem_reverse.mpr hc)))

/-- A beginning with a character that the text lacks is not found either. -/
lemma after?_eq_none {c : Char} {start : Text} (hc : c ∈ start) (h : c ∉ t) : after? start t = none := by
  rw [after?_eq_none_iff]
  intro hstart
  exact h (hstart.subset hc)

end JavaSource.Text
