import Mathlib.Tactic.Common
import JavaSource.Text.Basic

/-!
# First occurrences

`Text.cut?` scans a text for a pattern.  This file says, without the scan, where it cuts.

**Places.**  `FirstAt pattern t i` holds if the pattern occurs at place `i` of the text and nowhere before.  There is at
most one such place, and text behind the occurrence does not move it (`firstAt_append_iff`): an earlier occurrence would
end before this one does.

**Cutting.**  A cut is the division at the first occurrence (`cut?_eq_some_iff`), and none is made exactly if the
pattern does not occur (`cut?_eq_none_iff`).  `Cuts` puts the two cases into one relation.

**Separators.**  Where texts are joined by a separator, a character comes from it or from one of them, and a pattern
without the separating character does not reach across it.
-/

namespace JavaSource.Text

variable {pattern t before rest : Text} {i : Nat}

/-! ## Bytes -/

@[simp] lemma byteLength_nil : byteLength [] = 0 := rfl

@[simp] lemma byteLength_append : ∀ s t : Text, byteLength (s ++ t) = byteLength s + byteLength t
  | [], t => by simp
  | c :: cs, t => by
      rw [List.cons_append, byteLength, byteLength, byteLength_append cs t, Nat.add_assoc]

/-! ## Beginnings -/

@[simp] lemma after?_append : ∀ start rest : Text, after? start (start ++ rest) = some rest
  | [], _ => rfl
  | p :: ps, rest => by
      rw [List.cons_append, after?, if_pos rfl]
      exact after?_append ps rest

lemma after?_eq_some_iff {start : Text} : after? start t = some rest ↔ t = start ++ rest := by
  constructor
  · exact eq_of_after?
  · rintro rfl
    exact after?_append start rest

lemma after?_eq_none_iff {start : Text} : after? start t = none ↔ ¬ start <+: t := by
  rw [Option.eq_none_iff_forall_ne_some]
  constructor
  · rintro h ⟨rest, rfl⟩
    exact h rest (after?_append start rest)
  · intro h rest hrest
    exact h ⟨rest, (eq_of_after? hrest).symm⟩

/-! ## First occurrences -/

/-- The pattern occurs at place `i` of the text, and at no place before. -/
structure FirstAt (pattern t : Text) (i : Nat) : Prop where
  here : pattern <+: t.drop i
  earliest : ∀ j < i, ¬ pattern <+: t.drop j

lemma firstAt_zero_iff : FirstAt pattern t 0 ↔ pattern <+: t :=
  ⟨fun h => by simpa using h.here, fun h => ⟨by simpa using h, by simp⟩⟩

lemma firstAt_succ_iff {c : Char} :
    FirstAt pattern (c :: t) (i + 1) ↔ ¬ pattern <+: c :: t ∧ FirstAt pattern t i := by
  constructor
  · intro h
    refine ⟨by simpa using h.earliest 0 (Nat.succ_pos i), by simpa using h.here, fun j hj => ?_⟩
    simpa using h.earliest (j + 1) (Nat.succ_lt_succ hj)
  · rintro ⟨hnot, h⟩
    refine ⟨by simpa using h.here, fun j hj => ?_⟩
    cases j with
    | zero => simpa using hnot
    | succ j => simpa using h.earliest j (Nat.lt_of_succ_lt_succ hj)

/-- **What follows the occurrence does not matter.**  An occurrence before it would end before it does. -/
lemma firstAt_append_iff (rest : Text) : FirstAt pattern (before ++ pattern ++ rest) before.length ↔
    FirstAt pattern (before ++ pattern) before.length := by
  have hdrop : ∀ j < before.length,
      (pattern <+: (before ++ pattern ++ rest).drop j ↔ pattern <+: (before ++ pattern).drop j) := by
    intro j hj
    rw [List.drop_append_of_le_length (by simp only [List.length_append]; omega)]
    constructor
    · intro h
      refine List.prefix_of_prefix_length_le h (List.prefix_append ..) ?_
      simp only [List.length_drop, List.length_append]
      omega
    · exact fun h => h.trans (List.prefix_append ..)
  constructor
  · intro h
    exact ⟨by simp, fun j hj hpattern => h.earliest j hj ((hdrop j hj).mpr hpattern)⟩
  · intro h
    exact ⟨by simp, fun j hj hpattern => h.earliest j hj ((hdrop j hj).mp hpattern)⟩

/-- A pattern whose first character is not in the text before it occurs there first. -/
lemma firstAt_of_notMem {c : Char} {cs : Text} (h : c ∉ before) :
    FirstAt (c :: cs) (before ++ c :: cs) before.length := by
  refine ⟨by simp, fun j hj hpattern => h ?_⟩
  rw [List.drop_append_of_le_length (Nat.le_of_lt hj), List.drop_eq_getElem_cons hj, List.cons_append,
    List.cons_prefix_cons] at hpattern
  rw [hpattern.1]
  exact List.getElem_mem hj

/-! ## Cuts -/

/-- **A cut is made at the first occurrence.** -/
lemma cut?_eq_some_iff : ∀ {t before rest : Text}, cut? pattern t = some (before, rest) ↔
    t = before ++ pattern ++ rest ∧ FirstAt pattern (before ++ pattern) before.length
  | [], before, rest => by
      simp only [cut?, Option.map_eq_some_iff, after?_eq_some_iff, Prod.mk.injEq]
      constructor
      · rintro ⟨r, hr, rfl, rfl⟩
        exact ⟨hr, firstAt_zero_iff.mpr (List.prefix_refl pattern)⟩
      · rintro ⟨h, -⟩
        simp only [List.nil_eq_append_iff, List.append_eq_nil_iff] at h
        obtain ⟨⟨rfl, rfl⟩, rfl⟩ := h
        exact ⟨[], rfl, rfl, rfl⟩
  | c :: cs, before, rest => by
      have hhere : pattern <+: c :: cs ↔ ∃ r, after? pattern (c :: cs) = some r := by
        simp only [after?_eq_some_iff]
        exact exists_congr fun _ => eq_comm
      rw [cut?]
      split
      · rename_i r hr
        simp only [Option.some.injEq, Prod.mk.injEq]
        constructor
        · rintro ⟨rfl, rfl⟩
          exact ⟨eq_of_after? hr, firstAt_zero_iff.mpr (List.prefix_refl pattern)⟩
        · rintro ⟨hsource, hfirst⟩
          -- the pattern stands at the beginning, so nothing can stand before its first occurrence
          have hnil : before = [] := by
            by_contra hne
            rw [← firstAt_append_iff rest, ← hsource] at hfirst
            exact hfirst.earliest 0 (List.length_pos_iff.mpr hne) (hhere.mpr ⟨r, hr⟩)
          subst hnil
          rw [List.nil_append] at hsource
          rw [hsource, after?_append, Option.some.injEq] at hr
          exact ⟨rfl, hr.symm⟩
      · rename_i hnone
        have hnot : ¬ pattern <+: c :: cs := after?_eq_none_iff.mp hnone
        simp only [Option.map_eq_some_iff, Prod.mk.injEq]
        constructor
        · rintro ⟨⟨b, r⟩, hcut, rfl, rfl⟩
          obtain ⟨rfl, hfirst⟩ := cut?_eq_some_iff.mp hcut
          refine ⟨rfl, ?_⟩
          rw [← firstAt_append_iff r] at hfirst ⊢
          exact firstAt_succ_iff.mpr ⟨hnot, hfirst⟩
        · rintro ⟨hsource, hfirst⟩
          cases before with
          | nil => exact absurd ⟨rest, hsource.symm⟩ hnot
          | cons b bs =>
              simp only [List.cons_append, List.cons.injEq] at hsource
              obtain ⟨rfl, rfl⟩ := hsource
              exact ⟨(bs, rest), cut?_eq_some_iff.mpr ⟨rfl, (firstAt_succ_iff.mp hfirst).2⟩, rfl, rfl⟩

lemma cut?_append (rest : Text) (h : FirstAt pattern (before ++ pattern) before.length) :
    cut? pattern (before ++ pattern ++ rest) = some (before, rest) :=
  cut?_eq_some_iff.mpr ⟨rfl, h⟩

/-- **No cut is made exactly if the pattern does not occur.** -/
lemma cut?_eq_none_iff : ∀ {t : Text}, cut? pattern t = none ↔ ¬ pattern <:+: t
  | [] => by
      rw [cut?, Option.map_eq_none_iff, after?_eq_none_iff, List.prefix_nil, List.infix_nil]
  | c :: cs => by
      rw [cut?, List.infix_cons_iff]
      split
      · rename_i r hr
        simp [eq_of_after? hr]
      · rename_i hnone
        have hnot : ¬ pattern <+: c :: cs := after?_eq_none_iff.mp hnone
        simp only [Option.map_eq_none_iff, cut?_eq_none_iff, hnot, false_or]

/-- `before` is what stands before the first occurrence of the pattern, and `after?` what follows it; if the pattern
does not occur, `before` is the whole text. -/
inductive Cuts (pattern : Text) : (t before : Text) → (after? : Option Text) → Prop
  | found {before after : Text} (first : FirstAt pattern (before ++ pattern ++ after) before.length) :
      Cuts pattern (before ++ pattern ++ after) before (some after)
  | absent {t : Text} (notIn : ¬ pattern <:+: t) : Cuts pattern t t none

lemma cuts_some_iff {after : Text} :
    Cuts pattern t before (some after) ↔ cut? pattern t = some (before, after) := by
  rw [cut?_eq_some_iff]
  constructor
  · rintro (⟨first⟩ | _)
    exact ⟨rfl, (firstAt_append_iff _).mp first⟩
  · rintro ⟨rfl, hfirst⟩
    exact .found ((firstAt_append_iff _).mpr hfirst)

lemma cuts_none_iff : Cuts pattern t before none ↔ cut? pattern t = none ∧ before = t := by
  rw [cut?_eq_none_iff]
  constructor
  · rintro (_ | ⟨notIn⟩)
    exact ⟨notIn, rfl⟩
  · rintro ⟨notIn, rfl⟩
    exact .absent notIn

lemma exists_cuts (pattern t : Text) : ∃ before after?, Cuts pattern t before after? := by
  cases h : cut? pattern t with
  | none => exact ⟨t, none, cuts_none_iff.mpr ⟨h, rfl⟩⟩
  | some parts => exact ⟨parts.1, some parts.2, cuts_some_iff.mpr h⟩

/-! ## Separators -/

lemma mem_join {c : Char} {separator : Text} : ∀ {parts : List Text}, c ∈ join separator parts →
    c ∈ separator ∨ ∃ part ∈ parts, c ∈ part
  | [], h => by simp [join] at h
  | [part], h => Or.inr ⟨part, List.mem_cons_self .., by simpa [join] using h⟩
  | part :: next :: rest, h => by
      rw [join, List.intercalate_cons_cons, List.mem_append, List.mem_append] at h
      rcases h with (h | h) | h
      · exact Or.inr ⟨part, List.mem_cons_self .., h⟩
      · exact Or.inl h
      · rcases mem_join h with h | ⟨p, hp, h⟩
        · exact Or.inl h
        · exact Or.inr ⟨p, List.mem_cons_of_mem _ hp, h⟩

lemma join_append {separator : Text} {xs ys : List Text} (hx : xs ≠ []) (hy : ys ≠ []) :
    join separator (xs ++ ys) = join separator xs ++ separator ++ join separator ys := by
  unfold join
  induction xs with
  | nil => exact absurd rfl hx
  | cons x rest ih =>
      rw [List.cons_append, List.intercalate_cons_of_ne_nil (by simp [hy])]
      by_cases hrest : rest = []
      · rw [hrest, List.nil_append, List.intercalate_singleton]
      · rw [ih hrest, List.intercalate_cons_of_ne_nil hrest]
        simp only [List.append_assoc]

lemma join_splitOn (t : Text) : join "." (t.splitOn '.') = t := List.intercalate_splitOn '.'

/-- What stands between two separators contains none. -/
lemma notMem_of_mem_splitOn {c : Char} {part : Text} : ∀ {t : Text}, part ∈ t.splitOn c → c ∉ part
  | [], h => by
      rw [List.splitOn_nil, List.mem_singleton] at h
      simp [h]
  | d :: t, h => by
      obtain ⟨first, rest, hsplit⟩ := List.exists_cons_of_ne_nil (List.splitOn_ne_nil c t)
      rw [List.splitOn_cons_eq_if_modifyHead, hsplit] at h
      split at h
      · rcases List.mem_cons.mp h with rfl | h
        · simp
        · exact notMem_of_mem_splitOn (hsplit ▸ h)
      · rename_i hd
        rcases List.mem_cons.mp h with rfl | h
        · have hfirst : c ∉ first := notMem_of_mem_splitOn (hsplit ▸ List.mem_cons_self ..)
          rw [List.mem_cons, not_or]
          exact ⟨fun hc => hd (by simp [hc]), hfirst⟩
        · exact notMem_of_mem_splitOn (hsplit ▸ List.mem_cons_of_mem _ h)

lemma prefix_of_prefix_append_cons {c : Char} {s : Text} (hc : c ∉ pattern) (h : pattern <+: s ++ c :: t) :
    pattern <+: s := by
  have hsep : s ++ [c] <+: s ++ c :: t := ⟨t, by simp⟩
  rcases List.prefix_or_prefix_of_prefix h hsep with hshort | hlong
  · rcases List.prefix_concat_iff.mp hshort with rfl | hs
    · exact absurd (by simp) hc
    · exact hs
  · exact absurd (hlong.subset (by simp)) hc

/-- A pattern without the separator occurs on one side of it. -/
lemma infix_append_cons {c : Char} (hc : c ∉ pattern) : ∀ {s : Text}, pattern <:+: s ++ c :: t →
    pattern <:+: s ∨ pattern <:+: t
  | [], h => by
      rcases List.infix_cons_iff.mp h with h | h
      · exact Or.inl (prefix_of_prefix_append_cons hc h).isInfix
      · exact Or.inr h
  | d :: s, h => by
      rcases List.infix_cons_iff.mp h with h | h
      · exact Or.inl (prefix_of_prefix_append_cons hc h).isInfix
      · rcases infix_append_cons hc h with h | h
        · exact Or.inl (List.infix_cons h)
        · exact Or.inr h

end JavaSource.Text
