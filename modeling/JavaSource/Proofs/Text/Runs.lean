import Mathlib.Data.List.SplitBy
import JavaSource.Text.Basic

/-!
# Line breaks in a row

A text without most of the line breaks that follow each other.

**The rule.**  A text is the sequence of its maximal runs, of line breaks and of other characters in turn.
`Text.squeeze` cuts a run of line breaks at the beginning of the text to one, and every other one to two.

**The same from left to right.**  `Text.squeezeFrom room` knows of what it has read only how many more line breaks may
follow.  On a run of line breaks the room shrinks, on any other character there is room for two again; hence the two
agree (`Text.squeezeFrom_one`).
-/

namespace JavaSource.Text

/-- Both characters are line breaks, or neither is. -/
def alike (c d : Char) : Bool := (c == '\n') == (d == '\n')

/-- The maximal runs of line breaks and of other characters, in order. -/
def runs (t : Text) : List Text := t.splitBy alike

/-- A run of line breaks is cut to at most `most` of them, and any other run stays. -/
def cutRun (most : Nat) (run : Text) : Text := if '\n' ∈ run then run.take most else run

/-- Runs one after the other, the first one cut to `lead` line breaks and every other one to two. -/
def cutRuns (lead : Nat) : List Text → Text
  | [] => []
  | first :: rest => cutRun lead first ++ rest.flatMap (cutRun 2)

/-- The text with at most one line break at its beginning and at most two anywhere else. -/
def squeeze (t : Text) : Text := cutRuns 1 (runs t)

/-- The text with at most `room` line breaks at its beginning and at most two anywhere else. -/
def squeezeFrom : (room : Nat) → Text → Text
  | _, [] => []
  | room, c :: cs =>
    if c = '\n' then (if room = 0 then [] else ['\n']) ++ squeezeFrom (room - 1) cs else c :: squeezeFrom 2 cs

variable {run t : Text}

/-! ## One run -/

lemma squeezeFrom_breaks (room : Nat) (hrun : ∀ c ∈ run, c = '\n') :
    squeezeFrom room (run ++ t) = run.take room ++ squeezeFrom (room - run.length) t := by
  induction run generalizing room with
  | nil => simp
  | cons c run ih =>
      obtain ⟨rfl, hrest⟩ := List.forall_mem_cons.mp hrun
      cases room with
      | zero => simp [squeezeFrom, ih 0 hrest]
      | succ room => simp [squeezeFrom, ih room hrest]

lemma squeezeFrom_other (room : Nat) (hrun : '\n' ∉ run) (hne : run ≠ []) :
    squeezeFrom room (run ++ t) = run ++ squeezeFrom 2 t := by
  induction run generalizing room with
  | nil => exact absurd rfl hne
  | cons c run ih =>
      rw [List.mem_cons, not_or] at hrun
      obtain ⟨hc, hrest⟩ := hrun
      have hbehind : squeezeFrom 2 (run ++ t) = run ++ squeezeFrom 2 t := by
        cases run with
        | nil => rfl
        | cons d run => exact ih 2 hrest (List.cons_ne_nil d run)
      rw [List.cons_append, squeezeFrom, if_neg fun h => hc h.symm, hbehind, List.cons_append]

/-- Characters of which every two neighbours are alike are alike. -/
lemma breaks_or_other : ∀ {run : Text}, (run.IsChain fun c d => alike c d = true) →
    (∀ c ∈ run, c = '\n') ∨ '\n' ∉ run
  | [], _ => Or.inr List.not_mem_nil
  | [c], _ => by
      by_cases hc : c = '\n'
      · exact Or.inl (by simp [hc])
      · exact Or.inr (by simpa using fun h => hc h.symm)
  | c :: d :: run, h => by
      obtain ⟨hcd, hrest⟩ := List.isChain_cons_cons.mp h
      have halike : c = '\n' ↔ d = '\n' := by simpa [alike] using hcd
      rcases breaks_or_other hrest with hbreaks | hother
      · exact Or.inl (List.forall_mem_cons.mpr ⟨halike.mpr (hbreaks d (List.mem_cons_self ..)), hbreaks⟩)
      · have hc : c ≠ '\n' := fun hc => hother (halike.mp hc ▸ List.mem_cons_self ..)
        exact Or.inr (by simpa [List.mem_cons, not_or] using ⟨fun h => hc h.symm, by simpa using hother⟩)

/-! ## All runs -/

lemma cutRun_other (most : Nat) (hrun : '\n' ∉ run) : cutRun most run = run := if_neg hrun

lemma cutRuns_two : ∀ rs : List Text, cutRuns 2 rs = rs.flatMap (cutRun 2)
  | [] => rfl
  | _ :: _ => rfl

/-- **Runs are cut one after the other.**  Behind a run of line breaks there is no room left that matters, since the
next run does not begin with one. -/
lemma squeezeFrom_flatten : ∀ {rs : List Text} (room : Nat), [] ∉ rs →
    (∀ run ∈ rs, run.IsChain fun c d => alike c d = true) →
    (rs.IsChain fun a b => ∃ ha hb, alike (a.getLast ha) (b.head hb) = false) →
      squeezeFrom room rs.flatten = cutRuns room rs
  | [], _, _, _, _ => rfl
  | run :: rest, room, hne, hruns, hapart => by
      rw [List.mem_cons, not_or] at hne
      obtain ⟨hrun, hrest⟩ := List.forall_mem_cons.mp hruns
      have ih : ∀ room, squeezeFrom room rest.flatten = cutRuns room rest := fun room =>
        squeezeFrom_flatten room hne.2 hrest hapart.tail
      rw [List.flatten_cons]
      rcases breaks_or_other hrun with hbreaks | hother
      · have hin : '\n' ∈ run := by
          obtain ⟨c, cs, rfl⟩ := List.exists_cons_of_ne_nil (Ne.symm hne.1)
          exact hbreaks c (List.mem_cons_self ..) ▸ List.mem_cons_self ..
        rw [squeezeFrom_breaks room hbreaks, ih, cutRuns, cutRun, if_pos hin]
        cases rest with
        | nil => rfl
        | cons next rest =>
            obtain ⟨⟨hlast, hhead, hdiffer⟩, -⟩ := List.isChain_cons_cons.mp hapart
            have hnext : '\n' ∉ next := by
              refine (breaks_or_other (hrest next (List.mem_cons_self ..))).resolve_left fun h => ?_
              rw [hbreaks _ (List.getLast_mem hlast), h _ (List.head_mem hhead)] at hdiffer
              simp [alike] at hdiffer
            rw [cutRuns, List.flatMap_cons, cutRun_other _ hnext, cutRun_other _ hnext]
      · rw [squeezeFrom_other room hother (Ne.symm hne.1), ih, cutRuns_two, cutRuns, cutRun_other _ hother]

/-- **Cutting runs is reading from left to right.** -/
lemma squeezeFrom_one (t : Text) : squeezeFrom 1 t = squeeze t := by
  have hruns := squeezeFrom_flatten 1 (List.nil_notMem_splitBy alike t) (fun _ => List.isChain_of_mem_splitBy)
    (List.isChain_getLast_head_splitBy alike t)
  rwa [List.flatten_splitBy] at hruns

end JavaSource.Text
