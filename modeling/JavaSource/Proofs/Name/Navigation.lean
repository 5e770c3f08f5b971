import JavaSource.Proofs.Name.Construction
import JavaSource.Proofs.Text.Occurrence

/-!
# Ways between names

A name is entered through `nested` and `memberOf` and left through `enclosing`.

**One step.**  Leaving undoes entering, whether the name was a package or a type: the division is the one that was there
before (`WellFormed.enclosing_child`).  Only a single identifier cannot be left, and what a step takes off the canonical
text is the last identifier with its dot (`WellFormed.canonical_eq_of_enclosing`).

**Many steps.**  As long as identifiers are left, each step takes off one of them, and neither the limit of the package
nor a member at the end makes a difference to where a number of steps leads (`WellFormed.ascend_eq`).  So the way out of
any name that is no package comes through its top-level type, which `topLevel?` finds at once.
-/

namespace JavaSource.Name

variable {m n outer top : Name}

/-! ## One step -/

lemma enclosing_of_size_ne_one (h : n.size ≠ 1) :
    n.enclosing = .ok ⟨n.identifiers.dropLast, min n.level (n.size - 1), false⟩ := by
  rw [enclosing, enclosing?, if_neg h]

lemma enclosing_eq_error_iff {e : NameError} :
    n.enclosing = .error e ↔ n.size = 1 ∧ e = .noEnclosing n.canonical := by
  by_cases hsize : n.size = 1
  · simp [enclosing, enclosing?, hsize, eq_comm]
  · simp [enclosing_of_size_ne_one hsize, hsize]

/-- **Leaving undoes entering.**  The level is not clamped, because it did not count the new identifier. -/
lemma WellFormed.enclosing_child (hn : n.WellFormed) (hmember : n.isMember = false) (simple : Text) (isMember : Bool) :
    Name.enclosing ⟨n.identifiers ++ [simple], n.level, isMember⟩ = .ok n := by
  have hsize : (⟨n.identifiers ++ [simple], n.level, isMember⟩ : Name).size = n.size + 1 := by simp [size]
  have hpos := hn.size_pos
  rw [enclosing_of_size_ne_one (by omega), hsize, Nat.add_sub_cancel]
  simp only [List.dropLast_concat, Nat.min_eq_left hn.level_le]
  rw [← hmember]

lemma WellFormed.canonical_eq_of_enclosing (hn : n.WellFormed) (h : n.enclosing = .ok outer) :
    n.canonical = outer.canonical ++ "." ++ n.last := by
  have houter := hn.enclosing (enclosing?_of_enclosing h)
  obtain ⟨-, rfl⟩ := enclosing?_eq_some (enclosing?_of_enclosing h)
  have hsingle : Text.join "." [n.last] = n.last := List.intercalate_singleton ..
  calc n.canonical = Text.join "." (n.identifiers.dropLast ++ [n.last]) := by
        rw [hn.last_eq_getLast, List.dropLast_concat_getLast, canonical]
    _ = Text.join "." n.identifiers.dropLast ++ "." ++ n.last := by
        rw [Text.join_append houter.nonempty (List.cons_ne_nil _ _), hsingle]

/-! ## Many steps -/

/-- The name that is reached by leaving a number of names, one after the other. -/
def ascend : Nat → Name → Except NameError Name
  | 0, n => .ok n
  | count + 1, n =>
    match n.enclosing with
    | .ok outer => ascend count outer
    | .error e => .error e

/-- **Each step takes off one identifier.**  The level is clamped only when the steps have reached the package. -/
lemma WellFormed.ascend_eq {count : Nat} (hn : n.WellFormed) (h : count < n.size) : ascend count n =
    .ok ⟨n.identifiers.take (n.size - count), min n.level (n.size - count), count == 0 && n.isMember⟩ := by
  induction count generalizing n with
  | zero =>
      rw [ascend, Nat.sub_zero, Nat.min_eq_left hn.level_le, size, List.take_length]
      rfl
  | succ count ih =>
      have hne : n.size ≠ 1 := by omega
      have houter : n.enclosing? = some ⟨n.identifiers.dropLast, min n.level (n.size - 1), false⟩ := if_neg hne
      have hsize : (⟨n.identifiers.dropLast, min n.level (n.size - 1), false⟩ : Name).size = n.size - 1 :=
        List.length_dropLast
      have hids : n.identifiers.dropLast.take (n.size - 1 - count) = n.identifiers.take (n.size - (count + 1)) := by
        rw [List.dropLast_eq_take, List.take_take]
        congr 1
        simp only [size]
        omega
      have hlevel : min (min n.level (n.size - 1)) (n.size - 1 - count) = min n.level (n.size - (count + 1)) := by
        omega
      rw [ascend, enclosing_of_size_ne_one hne]
      simp [ih (hn.enclosing houter) (by omega), hsize, hids, hlevel]

/-- The top-level type stands one identifier behind the package. -/
lemma WellFormed.ascend_topLevel (hn : n.WellFormed) (h : n.topLevel? = some top) :
    ascend (n.size - n.level - 1) n = .ok top := by
  obtain ⟨hp, rfl⟩ := topLevel?_eq_some h
  have hlt := hn.level_lt hp
  have hleft : n.size - (n.size - n.level - 1) = n.level + 1 := by omega
  have hmember : (n.size - n.level - 1 == 0 && n.isMember) = false := by
    cases hm : n.isMember with
    | false => exact Bool.and_false _
    | true =>
        -- a member is below its top-level type, so there is a step to take
        have hinside := hn.member_inside hm
        simp
        omega
  rw [hn.ascend_eq (by omega), hleft, hmember, Nat.min_eq_left (Nat.le_succ _)]

/-- **Laws of navigation.**  Whatever was entered is left for the same name again.  Leaving fails for a single identifier
alone, and otherwise takes the last identifier off the canonical text.  And a name that is no package is left for its
top-level type, in as many steps as it has identifiers between the package and itself; the top-level type is its own. -/
theorem navigation_laws {n : Name} (hn : n.Constructible) :
    (∀ {simple : Text} {m : Name}, n.nested simple = .ok m → m.enclosing = .ok n) ∧
      (∀ {member : Text} {m : Name}, n.memberOf member = .ok m → m.enclosing = .ok n) ∧
      ((∃ e, n.enclosing = .error e) ↔ n.size = 1) ∧
      (∀ {outer : Name}, n.enclosing = .ok outer → n.canonical = outer.canonical ++ "." ++ n.last) ∧
      (n.isPackage = false → ∃ top, n.topLevel? = some top ∧ ascend (n.size - n.level - 1) n = .ok top ∧
        top.topLevel? = some top) := by
  have hwf := hn.wellFormed
  refine ⟨?_, ?_, ?_, hwf.canonical_eq_of_enclosing, ?_⟩
  · intro simple m h
    obtain ⟨hmember, rfl, -⟩ := nested_eq_ok h
    exact hwf.enclosing_child hmember simple false
  · intro member m h
    obtain ⟨-, hmember, rfl, -⟩ := memberOf_eq_ok h
    exact hwf.enclosing_child hmember member true
  · simp [enclosing_eq_error_iff]
  · intro hp
    have htop := topLevel?_of_not_isPackage hp
    exact ⟨_, htop, hwf.ascend_topLevel htop, topLevel?_of_isTopLevel (hwf.isTopLevel_topLevel htop)⟩

/-- From a package to a member of a nested type and back again. -/
theorem navigation_laws_entry :
    let package : Name := ⟨["java", "util"], 2, false⟩
    let map : Name := ⟨["java", "util", "Map"], 2, false⟩
    let entry : Name := ⟨["java", "util", "Map", "Entry"], 2, false⟩
    let member : Name := ⟨["java", "util", "Map", "Entry", "copyOf"], 2, true⟩
    package.nested "Map" = .ok map ∧ map.enclosing = .ok package ∧ entry.memberOf "copyOf" = .ok member ∧
      member.enclosing = .ok entry ∧ member.canonical = entry.canonical ++ "." ++ member.last ∧
      member.topLevel? = some map ∧ ascend 2 member = .ok map ∧ map.topLevel? = some map := by
  intro package map entry member
  have hpackage : ofPackage "java.util" = .ok package := by decide +kernel
  have hmap : package.nested "Map" = .ok map := by decide +kernel
  have hentry : map.nested "Entry" = .ok entry := by decide +kernel
  have hmember : entry.memberOf "copyOf" = .ok member := by decide +kernel
  have hbuilt : entry.Constructible := .nested (.nested (.ofPackage hpackage) hmap) hentry
  have hout := (navigation_laws hbuilt).2.1 hmember
  obtain ⟨-, -, -, htext, htop⟩ := navigation_laws (.memberOf hbuilt hmember)
  obtain ⟨top, hfound, hreached, hown⟩ := htop (by decide)
  cases hfound
  exact ⟨hmap, (navigation_laws (.ofPackage hpackage)).1 hmap, hmember, hout, htext hout, rfl, hreached, hown⟩

end JavaSource.Name
