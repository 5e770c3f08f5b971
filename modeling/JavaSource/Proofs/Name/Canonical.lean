import JavaSource.Proofs.Name.Construction
import JavaSource.Proofs.Text.Ends

/-!
# The canonical text is read back

Reading a name begins with trimming, and goes on with splitting at the dots.  Neither does anything to a canonical text
but undo the joining: identifiers contain no dots, and no blanks either (`Identifier.isBlank_eq_false`).  The division
is then found by convention, whatever it was before (`WellFormed.parse_canonical`); so a name that was read is read
again as it was (`Parsed.parse_canonical`), and without its package as a name of the unnamed one (`Parsed.parse_short`).
-/

namespace JavaSource

/-! ## Blanks in identifiers -/

/-- The code points from the first to the last one of a run. -/
def Unicode.Run.points (r : Run) : List Nat := List.range' r.first (r.last + 1 - r.first)

lemma Unicode.Run.mem_points_of_covers {n : Nat} : ∀ {runs : List Run}, covers runs n = true → n ∈ runs.flatMap points
  | [], h => by simp [covers] at h
  | r :: rest, h => by
      rw [covers] at h
      split at h
      · cases h
      · rw [List.flatMap_cons, List.mem_append]
        rcases Bool.or_eq_true_iff.mp h with h | h
        · left
          simp only [contains, Bool.and_eq_true, decide_eq_true_eq] at h
          obtain ⟨⟨hfirst, hlast⟩, -⟩ := h
          rw [points, List.mem_range'_1]
          omega
        · exact Or.inr (mem_points_of_covers h)

namespace Identifier

/-- **No blank can stand in an identifier.**  There are only a few blanks, and the tables of letters and numbers cover
none of them. -/
lemma isBlank_of_isPart {c : Char} (h : isPart c = true) : Unicode.isBlank c = false := by
  have hapart : ∀ n ∈ Unicode.blankRuns.flatMap Unicode.Run.points,
      Unicode.Run.covers Unicode.alphabeticRuns n = false ∧ Unicode.Run.covers Unicode.numericRuns n = false := by
    decide +kernel
  cases hblank : Unicode.isBlank c with
  | false => rfl
  | true =>
      obtain ⟨halphabetic, hnumeric⟩ := hapart c.toNat (Unicode.Run.mem_points_of_covers hblank)
      simp only [isPart, isStart, Unicode.isAlphabetic, Unicode.isNumeric, halphabetic, hnumeric, Bool.false_or,
        Bool.or_false, Bool.or_eq_true, beq_iff_eq] at h
      rcases h with rfl | rfl
      · exact absurd hblank (by decide)
      · exact absurd hblank (by decide)

lemma isBlank_eq_false {t : Text} (h : isValid t = true) {c : Char} (hc : c ∈ t) : Unicode.isBlank c = false := by
  cases hblank : Unicode.isBlank c with
  | false => rfl
  | true =>
      have hpart : isPart c = false := by
        by_contra hpart
        rw [isBlank_of_isPart (by simpa using hpart)] at hblank
        exact Bool.noConfusion hblank
      exact absurd hc (notMem_of_isPart hpart h)

end Identifier

namespace Name

variable {n : Name} {c : Char}

/-! ## Characters of a canonical text -/

/-- A character that is no dot and cannot stand in an identifier stands in no canonical text. -/
lemma WellFormed.notMem_canonical (hn : n.WellFormed) (hpart : Identifier.isPart c = false) (hdot : c ≠ '.') :
    c ∉ n.canonical := by
  intro h
  rcases Text.mem_join h with h | ⟨i, hi, h⟩
  · exact hdot (List.mem_singleton.mp h)
  · exact Identifier.notMem_of_isPart hpart (hn.valid i hi) h

lemma WellFormed.unblank (hn : n.WellFormed) : ∀ c ∈ n.canonical, Unicode.isBlank c = false := by
  intro c hc
  rcases Text.mem_join hc with hdot | ⟨i, hi, hc⟩
  · rw [List.mem_singleton.mp hdot]
    decide
  · exact Identifier.isBlank_eq_false (hn.valid i hi) hc

lemma WellFormed.canonical_ne_nil (hn : n.WellFormed) : n.canonical ≠ [] := by
  obtain ⟨i, rest, hids⟩ := List.exists_cons_of_ne_nil hn.nonempty
  have hi : i ≠ [] := by
    rintro rfl
    exact absurd (hn.valid [] (by simp [hids])) (by decide)
  cases rest with
  | nil => simpa [canonical, Text.join, hids] using hi
  | cons j rest => simp [canonical, Text.join, hids, hi]

/-- The identifiers are what stands between the dots. -/
lemma WellFormed.splitOn_canonical (hn : n.WellFormed) : n.canonical.splitOn '.' = n.identifiers :=
  List.splitOn_intercalate '.' hn.dot_notMem hn.nonempty

/-! ## Reading -/

/-- The name with these identifiers, divided by convention. -/
def byConvention (identifiers : List Text) : Name :=
  let level := identifiers.findIdx isCapitalized
  ⟨identifiers, level, level + 1 < identifiers.length && !isCapitalized (identifiers.getLast?.getD [])⟩

/-- Dividing it by convention, a well-formed name stays one. -/
lemma wellFormed_byConvention (hn : n.WellFormed) : (byConvention n.identifiers).WellFormed where
  nonempty := hn.nonempty
  valid := hn.valid
  level_le := List.findIdx_le_length
  member_inside h := by
    simp only [Name.byConvention, Bool.and_eq_true, decide_eq_true_eq] at h
    simp only [Name.byConvention, size]
    omega

/-- **A canonical text can be read**, as a name with the same identifiers. -/
lemma WellFormed.parse_canonical (hn : n.WellFormed) : parse n.canonical = .ok (byConvention n.identifiers) := by
  have hne : n.canonical.isEmpty = false := by simpa using hn.canonical_ne_nil
  simp only [parse, Text.trim_eq_self hn.unblank, hne, hn.splitOn_canonical, Bool.false_eq_true, if_false]
  exact (wellFormed_byConvention hn).make_eq

/-- What was read is divided by convention. -/
lemma Parsed.eq_byConvention (h : n.Parsed) : n = byConvention n.identifiers := by
  obtain ⟨dotted, h⟩ := h
  simp only [parse] at h
  split at h
  · cases h
  · obtain ⟨rfl, -⟩ := make_eq_ok h
    rfl

/-- **What was read is read again as it was.** -/
lemma Parsed.parse_canonical (h : n.Parsed) : parse n.canonical = .ok n := by
  rw [h.conventional.toWellFormed.parse_canonical, ← h.eq_byConvention]

/-- Without its package it can be read, too: the first type is capitalized, so nothing is taken for a package. -/
lemma Parsed.parse_short (h : n.Parsed) (hp : n.isPackage = false) :
    parse n.short = .ok ⟨n.simpleNames, 0, n.isMember⟩ := by
  have hn := h.conventional
  have hlt : n.level < n.identifiers.length := hn.level_lt hp
  have hlength : n.simpleNames.length = n.identifiers.length - n.level := List.length_drop
  have hshort : (⟨n.simpleNames, 0, n.isMember⟩ : Name).WellFormed := by
    refine ⟨List.ne_nil_of_length_pos (l := n.simpleNames) (by omega),
      fun i hi => hn.valid i (List.drop_subset _ _ hi), Nat.zero_le _, fun hm => ?_⟩
    have hinside : n.level + 2 ≤ n.identifiers.length := hn.member_inside hm
    simp only [size]
    omega
  have hlast : n.simpleNames.getLast? = n.identifiers.getLast? := by
    rw [simpleNames, List.getLast?_drop, if_neg (by omega)]
  have hmember : n.isMember = (byConvention n.identifiers).isMember := congrArg Name.isMember h.eq_byConvention
  have hnext : (0 + 1 < n.simpleNames.length) ↔ (n.level + 1 < n.identifiers.length) := by omega
  have hread : byConvention n.simpleNames = ⟨n.simpleNames, 0, n.isMember⟩ := by
    simp only [byConvention, hn.findIdx_simpleNames hp, hlast, hnext, hmember, ← hn.level_eq]
  rw [← hread]
  exact hshort.parse_canonical

/-- **The canonical text determines the name.**  Names are the same exactly if they have the same identifiers.  Every
canonical text is read, as a name with these identifiers; if the name was itself read, it comes back with its division
too.  What follows the package of a name that was read is read as the same types, and perhaps the same member, of the
unnamed package. -/
theorem canonical_determines_name :
    (∀ {m n : Name}, m.Constructible → n.Constructible → (m.same n = true ↔ m.identifiers = n.identifiers)) ∧
      (∀ {n : Name}, n.Constructible →
        ∃ m, parse n.canonical = .ok m ∧ m.same n = true ∧ m.identifiers = n.identifiers) ∧
      (∀ {n : Name}, n.Parsed → parse n.canonical = .ok n) ∧
      ∀ {n : Name}, n.Parsed → n.isPackage = false → parse n.short = .ok ⟨n.simpleNames, 0, n.isMember⟩ := by
  refine ⟨fun {m n} hm hn => ?_, fun {n} hn => ?_, Parsed.parse_canonical, Parsed.parse_short⟩
  · rw [same_iff]
    constructor
    · exact hm.wellFormed.identifiers_eq hn.wellFormed
    · intro h
      rw [canonical, canonical, h]
  · exact ⟨_, hn.wellFormed.parse_canonical, same_iff.mpr rfl, rfl⟩

/-- A package in capital letters is taken for a type when it is read, but it stays the same name; a member is found again
without its package. -/
theorem canonical_determines_name_capital :
    let package : Name := ⟨["org", "Tools"], 2, false⟩
    let type : Name := ⟨["org", "Tools"], 1, false⟩
    let member : Name := ⟨["java", "util", "Map", "Entry", "copyOf"], 2, true⟩
    package.Constructible ∧ package.same type = true ∧
      (∃ m, parse package.canonical = .ok m ∧ m.same package = true ∧ m.identifiers = package.identifiers) ∧
      parse "java.util.Map.Entry.copyOf" = .ok member ∧ parse member.canonical = .ok member ∧
      parse "Map.Entry.copyOf" = .ok ⟨["Map", "Entry", "copyOf"], 0, true⟩ := by
  intro package type member
  have hpackage : ofPackage "org.Tools" = .ok package := by decide +kernel
  have htype : parse "org.Tools" = .ok type := by decide +kernel
  have hmember : parse "java.util.Map.Entry.copyOf" = .ok member := by decide +kernel
  obtain ⟨hsame, hread, hback, hshort⟩ := canonical_determines_name
  exact ⟨.ofPackage hpackage, (hsame (.ofPackage hpackage) (.parse htype)).mpr rfl, hread (.ofPackage hpackage), hmember,
    hback ⟨_, hmember⟩, hshort ⟨_, hmember⟩ (by decide)⟩

end Name

end JavaSource
