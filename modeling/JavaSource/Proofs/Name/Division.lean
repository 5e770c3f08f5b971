import Mathlib.Tactic.Common
import JavaSource.Name.Style

/-!
# What the canonical text of a name determines

Names are compared by their canonical text alone.  This file says how much of a name that text fixes.

**Identifiers.**  No identifier contains a dot, so joining them by dots loses nothing: `join_dot_injective`, and
for names `WellFormed.identifiers_eq`.

**Division.**  A name that was read has its division from the spelling of its identifiers: the first capitalized
one ends the package.  `Conventional` keeps this, and unlike `Parsed` it is kept on the way to the enclosing name
and to the top-level type.  Hence two conventional names with the same canonical text have the same package and
the same simple names (`Conventional.level_eq_of_canonical`); only whether the last identifier is a member stays
open, since the enclosing name of a member is always taken for a type.

**Steps.**  Entering and leaving a name is said once for each step, with all that the step checks (`nested_eq_ok`,
`memberOf_eq_ok`, `enclosing?_eq_some`, `topLevel?_eq_some`).  Leaving keeps a name well-formed, and a conventional name
conventional.

**Spellings.**  `Style.parts` lists the identifiers that a style writes.  Two spellings are the same text exactly
if they are made of the same identifiers (`Style.apply_eq_apply_iff`).
-/

namespace JavaSource

/-! ## Texts joined by dots -/

/-- A character that cannot stand in an identifier stands in none. -/
lemma Identifier.notMem_of_isPart {c : Char} (hc : Identifier.isPart c = false) {t : Text}
    (h : Identifier.isValid t = true) : c ∉ t := by
  cases t with
  | nil => simp
  | cons d ds =>
      simp only [Identifier.isValid, Bool.and_eq_true, List.all_eq_true] at h
      obtain ⟨⟨hd, hds⟩, -⟩ := h
      have hne : ∀ e, Identifier.isPart e = true → c ≠ e := by
        rintro e he rfl
        rw [hc] at he
        exact Bool.noConfusion he
      rw [List.mem_cons, not_or]
      refine ⟨hne d (by simp [Identifier.isPart, hd]), fun hmem => hne c (hds c hmem) rfl⟩

lemma Identifier.dot_notMem {t : Text} (h : Identifier.isValid t = true) : '.' ∉ t :=
  notMem_of_isPart (by decide) h

/-- **Joining by dots loses nothing**, as long as no part contains a dot. -/
lemma Text.join_dot_injective {xs ys : List Text} (hx : ∀ x ∈ xs, '.' ∉ x) (hy : ∀ y ∈ ys, '.' ∉ y)
    (hx0 : xs ≠ []) (hy0 : ys ≠ []) (h : Text.join "." xs = Text.join "." ys) : xs = ys := by
  have hdot : ".".toList = ['.'] := rfl
  rw [Text.join, Text.join, hdot] at h
  rw [← List.splitOn_intercalate '.' hx hx0, h, List.splitOn_intercalate '.' hy hy0]

namespace Name

variable {m n outer top : Name}

/-! ## Well-formed names -/

/-- What `make` checks. -/
structure WellFormed (n : Name) : Prop where
  nonempty : n.identifiers ≠ []
  valid : ∀ i ∈ n.identifiers, Identifier.isValid i = true
  level_le : n.level ≤ n.size
  member_inside : n.isMember = true → n.level + 2 ≤ n.size

lemma make_eq_ok {identifiers : List Text} {level : Nat} {isMember : Bool}
    (h : make identifiers level isMember = .ok n) : n = ⟨identifiers, level, isMember⟩ ∧ n.WellFormed := by
  simp only [make, firstInvalid?] at h
  split at h
  · cases h
  · rename_i hne
    split at h
    · cases h
    · rename_i hvalid
      split at h
      · cases h
      · rename_i hlevel
        split at h
        · cases h
        · rename_i hmember
          cases h
          refine ⟨rfl, ⟨by simpa using hne, ?_, by simpa [size] using hlevel, ?_⟩⟩
          · simpa using hvalid
          · intro hm
            have hm' : isMember = true := hm
            simpa [size, hm'] using hmember

lemma nested_eq_ok {simple : Text} (h : n.nested simple = .ok m) :
    n.isMember = false ∧ m = ⟨n.identifiers ++ [simple], n.level, false⟩ ∧ m.WellFormed := by
  simp only [nested] at h
  split at h
  · cases h
  · rename_i hmember
    exact ⟨by simpa using hmember, make_eq_ok h⟩

lemma memberOf_eq_ok {member : Text} (h : n.memberOf member = .ok m) :
    n.isPackage = false ∧ n.isMember = false ∧ m = ⟨n.identifiers ++ [member], n.level, true⟩ ∧ m.WellFormed := by
  simp only [memberOf] at h
  split at h
  · cases h
  · rename_i hnot
    rw [Bool.or_eq_true, not_or] at hnot
    exact ⟨by simpa using hnot.1, by simpa using hnot.2, make_eq_ok h⟩

lemma WellFormed.dot_notMem (h : n.WellFormed) : ∀ i ∈ n.identifiers, '.' ∉ i :=
  fun i hi => Identifier.dot_notMem (h.valid i hi)

lemma WellFormed.size_pos (h : n.WellFormed) : 0 < n.size :=
  List.length_pos_iff.mpr h.nonempty

lemma WellFormed.last_eq_getLast (h : n.WellFormed) : n.last = n.identifiers.getLast h.nonempty := by
  rw [last, List.getLast?_eq_some_getLast h.nonempty, Option.getD_some]

/-- **The canonical text determines the identifiers.** -/
lemma WellFormed.identifiers_eq (hm : m.WellFormed) (hn : n.WellFormed)
    (h : m.canonical = n.canonical) : m.identifiers = n.identifiers :=
  Text.join_dot_injective hm.dot_notMem hn.dot_notMem hm.nonempty hn.nonempty h

lemma same_iff : m.same n = true ↔ m.canonical = n.canonical := by
  simp [same]

lemma isPackage_iff : n.isPackage = true ↔ n.level = n.size := by
  simp [isPackage]

/-! ## Names divided by convention -/

/-- The name was read from a text. -/
def Parsed (n : Name) : Prop := ∃ dotted, parse dotted = .ok n

/-- The package ends where the first capitalized identifier stands. -/
structure Conventional (n : Name) : Prop extends WellFormed n where
  level_eq : n.level = n.identifiers.findIdx isCapitalized

lemma Parsed.conventional (h : n.Parsed) : n.Conventional := by
  obtain ⟨dotted, h⟩ := h
  simp only [parse] at h
  split at h
  · cases h
  · obtain ⟨rfl, hwf⟩ := make_eq_ok h
    exact ⟨hwf, rfl⟩

/-- What follows the package begins with a capitalized identifier. -/
lemma Conventional.isCapitalized_getElem_level (hn : n.Conventional) (hlt : n.level < n.identifiers.length) :
    isCapitalized n.identifiers[n.level] = true := by
  simp only [hn.level_eq]
  exact List.findIdx_getElem

/-- Conventional names with the same canonical text have the same package. -/
lemma Conventional.level_eq_of_canonical (hm : m.Conventional) (hn : n.Conventional)
    (h : m.canonical = n.canonical) : m.level = n.level := by
  rw [hm.level_eq, hn.level_eq, hm.identifiers_eq hn.toWellFormed h]

/-- They are the same name if both or neither are members. -/
lemma Conventional.eq_of_canonical (hm : m.Conventional) (hn : n.Conventional) (h : m.canonical = n.canonical)
    (hmember : m.isMember = n.isMember) : m = n := by
  have hids := hm.identifiers_eq hn.toWellFormed h
  have hlevel := hm.level_eq_of_canonical hn h
  cases m
  cases n
  simp_all

/-! ## Enclosing names and top-level types -/

lemma enclosing?_eq_some (h : n.enclosing? = some outer) :
    n.size ≠ 1 ∧ outer = ⟨n.identifiers.dropLast, min n.level (n.size - 1), false⟩ := by
  simp only [enclosing?] at h
  split at h
  · cases h
  · rename_i hne
    exact ⟨hne, (Option.some.inj h).symm⟩

lemma enclosing?_of_enclosing (h : n.enclosing = .ok outer) : n.enclosing? = some outer := by
  unfold enclosing at h
  split at h
  · rename_i houter
    cases h
    exact houter
  · cases h

lemma topLevel?_eq_some (h : n.topLevel? = some top) :
    n.isPackage = false ∧ top = ⟨n.identifiers.take (n.level + 1), n.level, false⟩ := by
  simp only [topLevel?] at h
  split at h
  · cases h
  · rename_i hne
    exact ⟨by simpa using hne, (Option.some.inj h).symm⟩

lemma topLevel?_of_not_isPackage (h : n.isPackage = false) :
    n.topLevel? = some ⟨n.identifiers.take (n.level + 1), n.level, false⟩ := by
  simp [topLevel?, h]

lemma WellFormed.level_lt (h : n.WellFormed) (hp : n.isPackage = false) : n.level < n.size := by
  have hne : n.level ≠ n.size := by
    intro he
    rw [isPackage_iff.mpr he] at hp
    exact Bool.noConfusion hp
  exact Nat.lt_of_le_of_ne h.level_le hne

lemma WellFormed.enclosing (hn : n.WellFormed) (h : n.enclosing? = some outer) : outer.WellFormed := by
  obtain ⟨hne, rfl⟩ := enclosing?_eq_some h
  have hsize : 0 < n.identifiers.length := hn.size_pos
  simp only [size] at hne
  refine ⟨?_, ?_, ?_, by simp⟩
  · intro hnil
    have := congrArg List.length hnil
    simp only [List.length_dropLast, List.length_nil] at this
    omega
  · intro i hi
    exact hn.valid i (List.dropLast_subset _ hi)
  · simp only [size, List.length_dropLast]
    omega

lemma WellFormed.topLevel (hn : n.WellFormed) (h : n.topLevel? = some top) : top.WellFormed := by
  obtain ⟨hp, rfl⟩ := topLevel?_eq_some h
  have hlt : n.level < n.identifiers.length := hn.level_lt hp
  refine ⟨?_, ?_, ?_, by simp⟩
  · intro hnil
    have := congrArg List.length hnil
    simp only [List.length_take, List.length_nil] at this
    omega
  · intro i hi
    exact hn.valid i (List.take_subset _ _ hi)
  · simp only [size, List.length_take]
    omega

/-- Going to the enclosing name keeps to the convention. -/
lemma Conventional.enclosing (hn : n.Conventional) (h : n.enclosing? = some outer) :
    outer.Conventional := by
  refine ⟨hn.toWellFormed.enclosing h, ?_⟩
  obtain ⟨-, rfl⟩ := enclosing?_eq_some h
  simp only [size, List.dropLast_eq_take, List.findIdx_take, hn.level_eq]
  exact Nat.min_comm _ _

/-- So does going to the top-level type. -/
lemma Conventional.topLevel (hn : n.Conventional) (h : n.topLevel? = some top) :
    top.Conventional := by
  refine ⟨hn.toWellFormed.topLevel h, ?_⟩
  obtain ⟨-, rfl⟩ := topLevel?_eq_some h
  simp only [List.findIdx_take, ← hn.level_eq]
  omega

/-- Conventional names with the same canonical text have the same top-level type. -/
lemma Conventional.topLevel?_eq (hm : m.Conventional) (hn : n.Conventional)
    (h : m.canonical = n.canonical) : m.topLevel? = n.topLevel? := by
  have hids := hm.identifiers_eq hn.toWellFormed h
  have hlevel := hm.level_eq_of_canonical hn h
  cases m
  cases n
  simp only at hids hlevel
  subst hids hlevel
  rfl

/-- Nothing of what follows the package could be taken for a package. -/
lemma Conventional.findIdx_simpleNames (hn : n.Conventional) (hp : n.isPackage = false) :
    n.simpleNames.findIdx isCapitalized = 0 := by
  have hlt : n.level < n.identifiers.length := hn.level_lt hp
  rw [simpleNames, List.drop_eq_getElem_cons hlt, List.findIdx_cons, hn.isCapitalized_getElem_level hlt, cond_true]

/-- A member has a type around it. -/
lemma WellFormed.exists_enclosing (hn : n.WellFormed) (hm : n.isMember = true) :
    ∃ outer, n.enclosing? = some outer := by
  have hinside := hn.member_inside hm
  exact ⟨_, if_neg (by omega)⟩

/-- The package and the type around a member are those of the member. -/
lemma Conventional.enclosing_of_member (hn : n.Conventional) (hm : n.isMember = true)
    (h : n.enclosing? = some outer) : outer = ⟨n.identifiers.dropLast, n.level, false⟩ := by
  obtain ⟨-, rfl⟩ := enclosing?_eq_some h
  have hinside := hn.member_inside hm
  have hmin : min n.level (n.size - 1) = n.level := by omega
  rw [hmin]

lemma Conventional.topLevel?_enclosing (hn : n.Conventional) (hm : n.isMember = true)
    (h : n.enclosing? = some outer) : outer.topLevel? = n.topLevel? := by
  have hinside := hn.member_inside hm
  simp only [size] at hinside
  have htake : n.identifiers.dropLast.take (n.level + 1) = n.identifiers.take (n.level + 1) := by
    rw [List.dropLast_eq_take, List.take_take]
    congr 1
    omega
  have hn' : n.isPackage = false := beq_false_of_ne (by simp only [size]; omega)
  have houter : (⟨n.identifiers.dropLast, n.level, false⟩ : Name).isPackage = false :=
    beq_false_of_ne (by simp only [size, List.length_dropLast]; omega)
  rw [hn.enclosing_of_member hm h, topLevel?_of_not_isPackage hn', topLevel?_of_not_isPackage houter, htake]

lemma isMember_of_isTopLevel (h : n.isTopLevel = true) : n.isMember = false := by
  simp only [isTopLevel, Bool.and_eq_true, Bool.not_eq_true'] at h
  exact h.1

lemma WellFormed.isTopLevel_iff (hn : n.WellFormed) : n.isTopLevel = true ↔ n.size = n.level + 1 := by
  cases hm : n.isMember with
  | false => simp [isTopLevel, hm]
  | true =>
      have := hn.member_inside hm
      simp only [isTopLevel, hm, Bool.not_true, Bool.false_and, Bool.false_eq_true, false_iff]
      omega

/-- Whether a name is a top-level type, its canonical text decides. -/
lemma Conventional.isTopLevel_eq (hm : m.Conventional) (hn : n.Conventional) (h : m.canonical = n.canonical) :
    m.isTopLevel = n.isTopLevel := by
  rw [Bool.eq_iff_iff, hm.isTopLevel_iff, hn.isTopLevel_iff, size, size,
    hm.identifiers_eq hn.toWellFormed h, hm.level_eq_of_canonical hn h]

lemma Conventional.last_eq (hm : m.Conventional) (hn : n.Conventional) (h : m.canonical = n.canonical) :
    m.last = n.last := by
  rw [last, last, hm.identifiers_eq hn.toWellFormed h]

/-- A top-level type is its own top-level type. -/
lemma topLevel?_of_isTopLevel (h : n.isTopLevel = true) : n.topLevel? = some n := by
  obtain ⟨identifiers, level, isMember⟩ := n
  simp only [isTopLevel, size, Bool.and_eq_true, Bool.not_eq_true', beq_iff_eq] at h
  obtain ⟨rfl, hsize⟩ := h
  have hp : (⟨identifiers, level, false⟩ : Name).isPackage = false :=
    beq_false_of_ne (by simp only [size]; omega)
  rw [topLevel?_of_not_isPackage hp, List.take_of_length_le (by simp only; omega)]

lemma WellFormed.isTopLevel_topLevel (hn : n.WellFormed) (h : n.topLevel? = some top) :
    top.isTopLevel = true := by
  rw [(hn.topLevel h).isTopLevel_iff]
  obtain ⟨hp, rfl⟩ := topLevel?_eq_some h
  have hlt : n.level < n.identifiers.length := hn.level_lt hp
  simp only [size, List.length_take]
  omega

/-- The top-level type is written first after the package. -/
lemma head?_simpleNames (hn : n.WellFormed) (h : n.topLevel? = some top) :
    n.simpleNames.head? = some top.last := by
  obtain ⟨hp, rfl⟩ := topLevel?_eq_some h
  have hlt : n.level < n.identifiers.length := hn.level_lt hp
  rw [simpleNames, last, List.head?_drop, List.getLast?_take]
  simp [hlt]

lemma package_topLevel (h : n.topLevel? = some top) : top.package = n.package := by
  obtain ⟨-, rfl⟩ := topLevel?_eq_some h
  simp only [package, packageParts, List.take_take]
  congr 2
  omega

end Name

/-! ## Spellings -/

namespace Style

/-- The identifiers that the style writes. -/
def parts (s : Style) (n : Name) : List Text :=
  if n.isPackage then n.identifiers
  else
    match s with
    | .canonical => n.identifiers
    | .short => n.simpleNames
    | .last => [n.last]

lemma apply_eq_join (s : Style) (n : Name) : s.apply n = Text.join "." (s.parts n) := by
  unfold apply parts
  split
  · rfl
  · cases s with
    | canonical => rfl
    | short => rfl
    | last => exact (List.intercalate_singleton ..).symm

lemma parts_subset {n : Name} (hn : n.WellFormed) (s : Style) : s.parts n ⊆ n.identifiers := by
  unfold parts
  split
  · exact fun _ h => h
  · cases s with
    | canonical => exact fun _ h => h
    | short => exact List.drop_subset _ _
    | last =>
        intro i hi
        rw [List.mem_singleton] at hi
        rw [hi, hn.last_eq_getLast]
        exact List.getLast_mem hn.nonempty

lemma parts_ne_nil {n : Name} (hn : n.WellFormed) (s : Style) : s.parts n ≠ [] := by
  unfold parts
  split
  · exact hn.nonempty
  · rename_i hp
    cases s with
    | canonical => exact hn.nonempty
    | short =>
        have hlt := hn.level_lt (by simpa using hp)
        exact fun hnil => absurd (List.drop_eq_nil_iff.mp hnil) (Nat.not_le.mpr hlt)
    | last => simp

/-- **Two spellings are the same text exactly if they are made of the same identifiers.** -/
lemma apply_eq_apply_iff {m n : Name} (hm : m.WellFormed) (hn : n.WellFormed) (s t : Style) :
    s.apply m = t.apply n ↔ s.parts m = t.parts n := by
  rw [apply_eq_join, apply_eq_join]
  constructor
  · exact Text.join_dot_injective (fun i hi => hm.dot_notMem i (parts_subset hm s hi))
      (fun i hi => hn.dot_notMem i (parts_subset hn t hi)) (parts_ne_nil hm s) (parts_ne_nil hn t)
  · intro h
    rw [h]

end Style

end JavaSource
