import JavaSource.Decimal.Integer
import JavaSource.Proofs.Name.Division

/-!
# Names that can be built

A name comes from one of four constructors and may then be taken to a member, a nested type, the enclosing name or the
top-level type.  Two of these steps check nothing.  Still, **whatever the steps were, the result is well-formed**, and
every well-formed name can be built: `constructible_iff`.

**Checked access.**  A part of a name is found by places in the list of its identifiers.  With the list functions a
place outside of the list goes unnoticed, and so does a sum that exceeds a machine word.  The functions in
`CheckedAccess` notice: they look up the same places and add up the same sizes, and have no result if a place is outside
or a number does not fit.  For a constructible name they always have a result, and it is the part in question; and
building a name never gets as far as a sum that does not fit, however large the package level that it is given.
-/

namespace JavaSource

namespace Name

variable {n : Name}

/-! ## Constructible names -/

/-- The name is the result of a chain of constructors and steps. -/
inductive Constructible : Name → Prop
  | make {identifiers : List Text} {level : Nat} {isMember : Bool} {n : Name}
      (h : Name.make identifiers level isMember = .ok n) : Constructible n
  | ofType {package : Text} {simpleNames : List Text} {n : Name} (h : Name.ofType package simpleNames = .ok n) :
      Constructible n
  | ofPackage {package : Text} {n : Name} (h : Name.ofPackage package = .ok n) : Constructible n
  | parse {dotted : Text} {n : Name} (h : Name.parse dotted = .ok n) : Constructible n
  | memberOf {outer n : Name} {member : Text} (houter : Constructible outer) (h : outer.memberOf member = .ok n) :
      Constructible n
  | nested {outer n : Name} {simple : Text} (houter : Constructible outer) (h : outer.nested simple = .ok n) :
      Constructible n
  | enclosing {n outer : Name} (hn : Constructible n) (h : n.enclosing = .ok outer) : Constructible outer
  | topLevel {n top : Name} (hn : Constructible n) (h : n.topLevel? = some top) : Constructible top

lemma Constructible.wellFormed (h : n.Constructible) : n.WellFormed := by
  induction h with
  | make h => exact (make_eq_ok h).2
  | ofType h =>
      simp only [Name.ofType] at h
      split at h
      · cases h
      · exact (make_eq_ok h).2
  | ofPackage h => exact (make_eq_ok h).2
  | parse h => exact (Parsed.conventional ⟨_, h⟩).toWellFormed
  | memberOf _ h _ => exact (memberOf_eq_ok h).2.2.2
  | nested _ h _ => exact (nested_eq_ok h).2.2
  | enclosing _ h ih => exact ih.enclosing (enclosing?_of_enclosing h)
  | topLevel _ h ih => exact ih.topLevel h

/-- What `make` checks is also all that it checks. -/
lemma WellFormed.make_eq (h : n.WellFormed) : make n.identifiers n.level n.isMember = .ok n := by
  have hvalid : firstInvalid? n.identifiers = none := by simpa [firstInvalid?] using h.valid
  have hempty : n.identifiers.isEmpty = false := by simpa using h.nonempty
  have hlevel : ¬ n.level > n.identifiers.length := Nat.not_lt.mpr h.level_le
  have hmember : (n.isMember && decide (n.level + 2 > n.identifiers.length)) = false := by
    cases hm : n.isMember with
    | false => rfl
    | true => simpa [size] using h.member_inside hm
  simp only [make, hempty, hvalid, if_neg hlevel, hmember, Bool.false_eq_true, if_false]

/-- **The constructible names are the well-formed ones.** -/
theorem constructible_iff : n.Constructible ↔ n.WellFormed :=
  ⟨Constructible.wellFormed, fun h => .make h.make_eq⟩

end Name

/-! ## Checked access -/

namespace CheckedAccess

/-- The greatest number of entries that a list in memory can have. -/
def maxLength : Nat := 0x7FFFFFFFFFFFFFFF

/-- The sum, if it fits into a machine word. -/
def add (a b : Nat) : Option Nat := if a + b ≤ Decimal.maxWord then some (a + b) else none

/-- The difference, if it is not negative. -/
def sub (a b : Nat) : Option Nat := if b ≤ a then some (a - b) else none

/-- The entries from place `i` up to place `j`, if both are places of the list and in this order. -/
def slice (xs : List Text) (i j : Nat) : Option (List Text) :=
  if i ≤ j ∧ j ≤ xs.length then some ((xs.take j).drop i) else none

/-! Each part of a name, by its places. -/

def lastOf (identifiers : List Text) : Option Text := do
  let place ← sub identifiers.length 1
  identifiers[place]?

def last (n : Name) : Option Text := lastOf n.identifiers

def package (n : Name) : Option Text := (slice n.identifiers 0 n.level).map (Text.join ".")

def simpleNames (n : Name) : Option (List Text) := slice n.identifiers n.level n.size

def typeParts (n : Name) : Option (List Text) := do
  let stop ← if n.isMember then sub n.size 1 else some n.size
  slice n.identifiers n.level stop

def binary (n : Name) : Option Text := do
  let package ← package n
  let types ← (typeParts n).map (Text.join "$")
  let dot : Text := if package.isEmpty || types.isEmpty then [] else "."
  let member : Text ← if n.isMember then (last n).map ('.' :: ·) else some []
  return package ++ dot ++ types ++ member

def isTopLevel (n : Name) : Option Bool := do
  let next ← add n.level 1
  return !n.isMember && n.size == next

def enclosing (n : Name) : Option (Except NameError Name) :=
  if n.size = 1 then some (.error (.noEnclosing n.canonical))
  else do
    let stop ← sub n.size 1
    let identifiers ← slice n.identifiers 0 stop
    return .ok ⟨identifiers, min n.level stop, false⟩

def topLevel (n : Name) : Option (Option Name) :=
  if n.isPackage then some none
  else do
    let stop ← add n.level 1
    let identifiers ← slice n.identifiers 0 stop
    return some ⟨identifiers, n.level, false⟩

/-! Building a name, with the sums that the checks take. -/

def make (identifiers : List Text) (level : Nat) (isMember : Bool) : Option (Except NameError Name) :=
  if identifiers.isEmpty then some (.error .empty)
  else
    match Name.firstInvalid? identifiers with
    | some i => some (.error (.identifier i (Identifier.fault i)))
    | none =>
      if level > identifiers.length then
        some (.error (.packageLevel (Text.join "." identifiers) level identifiers.length))
      else if isMember then do
        let needed ← add level 2
        return if needed > identifiers.length then .error (.memberWithoutType (Text.join "." identifiers))
          else .ok ⟨identifiers, level, true⟩
      else some (.ok ⟨identifiers, level, false⟩)

def parse (dotted : Text) : Option (Except NameError Name) :=
  let dotted := Text.trim dotted
  if dotted.isEmpty then some (.error .empty)
  else do
    let identifiers := dotted.splitOn '.'
    let level := identifiers.findIdx Name.isCapitalized
    let next ← add level 1
    let isMember ←
      if next < identifiers.length then (lastOf identifiers).map fun last => !Name.isCapitalized last else some false
    make identifiers level isMember

/-- Every part of the name has a result when it is looked up by its places, and this result is the part. -/
structure Agrees (n : Name) : Prop where
  last : CheckedAccess.last n = some n.last
  package : CheckedAccess.package n = some n.package
  simpleNames : CheckedAccess.simpleNames n = some n.simpleNames
  binary : CheckedAccess.binary n = some n.binary
  isTopLevel : CheckedAccess.isTopLevel n = some n.isTopLevel
  enclosing : CheckedAccess.enclosing n = some n.enclosing
  topLevel : CheckedAccess.topLevel n = some n.topLevel?

/-! ## No check fails -/

variable {n : Name} {identifiers : List Text} {level : Nat}

lemma add_eq_some {a b : Nat} (h : a + b ≤ Decimal.maxWord) : add a b = some (a + b) := if_pos h

lemma sub_eq_some {a b : Nat} (h : b ≤ a) : sub a b = some (a - b) := if_pos h

lemma slice_eq_some {xs : List Text} {i j : Nat} (hij : i ≤ j) (hj : j ≤ xs.length) :
    slice xs i j = some ((xs.take j).drop i) := if_pos ⟨hij, hj⟩

/-- Sums of a place and a small number fit, as long as the place is one of a list in memory. -/
lemma add_level_eq_some (h : level ≤ maxLength) {k : Nat} (hk : k ≤ 2) : add level k = some (level + k) := by
  apply add_eq_some
  simp only [maxLength, Decimal.maxWord] at *
  omega

lemma lastOf_eq (h : identifiers ≠ []) : lastOf identifiers = some (identifiers.getLast?.getD []) := by
  have hsub : sub identifiers.length 1 = some (identifiers.length - 1) := sub_eq_some (List.length_pos_iff.mpr h)
  have hlast : identifiers.getLast? = some (identifiers.getLast h) := List.getLast?_eq_some_getLast h
  have hplace : identifiers[identifiers.length - 1]? = some (identifiers.getLast h) := by
    rw [← List.getLast?_eq_getElem?, hlast]
  rw [lastOf, hsub, hlast]
  exact hplace

lemma package_eq (h : n.WellFormed) : package n = some n.package := by
  rw [package, slice_eq_some (Nat.zero_le _) h.level_le]
  rfl

lemma simpleNames_eq (h : n.WellFormed) : simpleNames n = some n.simpleNames := by
  rw [simpleNames, slice_eq_some h.level_le (Nat.le_refl _), Name.size, List.take_length, Name.simpleNames]

lemma typeParts_eq (h : n.WellFormed) : typeParts n = some n.typeParts := by
  cases hm : n.isMember with
  | false => simpa [typeParts, Name.typeParts, hm, simpleNames] using simpleNames_eq h
  | true =>
      have hinside : n.level + 2 ≤ n.identifiers.length := h.member_inside hm
      have hsub : sub n.size 1 = some (n.identifiers.length - 1) := sub_eq_some h.size_pos
      have hslice : slice n.identifiers n.level (n.identifiers.length - 1) =
          some ((n.identifiers.take (n.identifiers.length - 1)).drop n.level) :=
        slice_eq_some (by omega) (Nat.sub_le _ _)
      have hparts : (n.identifiers.take (n.identifiers.length - 1)).drop n.level = n.typeParts := by
        rw [Name.typeParts, if_pos hm, Name.simpleNames, List.drop_take, List.dropLast_eq_take, List.length_drop]
        congr 1
        omega
      rw [typeParts, if_pos hm, hsub, ← hparts]
      exact hslice

lemma binary_eq (h : n.WellFormed) : binary n = some n.binary := by
  have hlast : last n = some n.last := lastOf_eq h.nonempty
  rw [binary, package_eq h, typeParts_eq h, hlast]
  cases hm : n.isMember with
  | false => simp [Name.binary, hm]
  | true => simp [Name.binary, hm]

lemma isTopLevel_eq (h : n.WellFormed) (hsize : n.size ≤ maxLength) : isTopLevel n = some n.isTopLevel := by
  rw [isTopLevel, add_level_eq_some (Nat.le_trans h.level_le hsize) (Nat.le_succ 1)]
  rfl

lemma enclosing_eq (h : n.WellFormed) : enclosing n = some n.enclosing := by
  rw [enclosing, Name.enclosing, Name.enclosing?]
  split
  · rfl
  · have hslice : slice n.identifiers 0 (n.size - 1) = some (n.identifiers.take (n.size - 1)) :=
      slice_eq_some (Nat.zero_le _) (Nat.sub_le _ _)
    rw [sub_eq_some h.size_pos, List.dropLast_eq_take]
    simp only [Option.bind_eq_bind, Option.bind_some, hslice]
    rfl

lemma topLevel_eq (h : n.WellFormed) (hsize : n.size ≤ maxLength) : topLevel n = some n.topLevel? := by
  rw [topLevel, Name.topLevel?]
  split
  · rfl
  · rename_i hp
    have hlt : n.level < n.size := h.level_lt (by simpa using hp)
    have hslice : slice n.identifiers 0 (n.level + 1) = some (n.identifiers.take (n.level + 1)) :=
      slice_eq_some (Nat.zero_le _) hlt
    rw [add_level_eq_some (Nat.le_trans h.level_le hsize) (Nat.le_succ 1)]
    simp only [Option.bind_eq_bind, Option.bind_some, hslice]
    rfl

/-- **No part of a well-formed name lies outside of it.** -/
lemma agrees_of_wellFormed (h : n.WellFormed) (hsize : n.size ≤ maxLength) : Agrees n where
  last := lastOf_eq h.nonempty
  package := package_eq h
  simpleNames := simpleNames_eq h
  binary := binary_eq h
  isTopLevel := isTopLevel_eq h hsize
  enclosing := enclosing_eq h
  topLevel := topLevel_eq h hsize

/-- **Building a name** compares the level with the size before it adds to it. -/
lemma make_eq (h : identifiers.length ≤ maxLength) (level : Nat) (isMember : Bool) :
    make identifiers level isMember = some (Name.make identifiers level isMember) := by
  by_cases hempty : identifiers.isEmpty = true
  · rw [make, Name.make, if_pos hempty, if_pos hempty]
  · cases hinvalid : Name.firstInvalid? identifiers with
    | some i => simp only [make, Name.make, if_neg hempty, hinvalid]
    | none =>
        by_cases hlevel : level > identifiers.length
        · simp only [make, Name.make, if_neg hempty, hinvalid, if_pos hlevel]
        · have hfits : add level 2 = some (level + 2) :=
            add_level_eq_some (Nat.le_trans (Nat.not_lt.mp hlevel) h) (Nat.le_refl 2)
          cases isMember with
          | false => simp [make, Name.make, hempty, hinvalid, hlevel]
          | true => simp [make, Name.make, hempty, hinvalid, hlevel, hfits]

lemma parse_eq {dotted : Text} (h : ((Text.trim dotted).splitOn '.').length ≤ maxLength) :
    parse dotted = some (Name.parse dotted) := by
  by_cases hempty : (Text.trim dotted).isEmpty = true
  · simp only [parse, Name.parse, if_pos hempty]
  · have hlevel : ((Text.trim dotted).splitOn '.').findIdx Name.isCapitalized ≤ maxLength :=
      Nat.le_trans List.findIdx_le_length h
    have hlast := lastOf_eq (List.splitOn_ne_nil '.' (Text.trim dotted))
    simp only [parse, Name.parse, if_neg hempty, add_level_eq_some hlevel (Nat.le_succ 1), hlast, Option.bind_eq_bind,
      Option.bind_some, Option.map_some]
    split
    · rename_i hnext
      simp [make_eq h, hnext]
    · rename_i hnext
      simp [make_eq h, hnext]

end CheckedAccess

namespace Name

/-- **Names are well-formed however they were built.**  The canonical text of a constructible name is made of its
identifiers and gives them back; each of its parts lies inside of it, and no number that is computed from its size
leaves the range of machine words.  Nor does one while a name is built, whatever the package level. -/
theorem constructible_in_bounds :
    (∀ n : Name, n.Constructible →
      n.WellFormed ∧ n.canonical = Text.join "." n.identifiers ∧ n.canonical.splitOn '.' = n.identifiers ∧
        (n.size ≤ CheckedAccess.maxLength → CheckedAccess.Agrees n)) ∧
    (∀ (identifiers : List Text) (level : Nat) (isMember : Bool), identifiers.length ≤ CheckedAccess.maxLength →
      CheckedAccess.make identifiers level isMember = some (make identifiers level isMember)) ∧
    ∀ dotted : Text, ((Text.trim dotted).splitOn '.').length ≤ CheckedAccess.maxLength →
      CheckedAccess.parse dotted = some (parse dotted) := by
  refine ⟨fun n hn => ?_, fun identifiers level isMember h => CheckedAccess.make_eq h level isMember,
    fun dotted h => CheckedAccess.parse_eq h⟩
  have hwf := constructible_iff.mp hn
  have hsplit : n.canonical.splitOn '.' = n.identifiers :=
    List.splitOn_intercalate '.' hwf.dot_notMem hwf.nonempty
  exact ⟨hwf, rfl, hsplit, CheckedAccess.agrees_of_wellFormed hwf⟩

/-- A member of a nested type, the type around it, and a package level that no sum may be taken of. -/
theorem constructible_in_bounds_entry :
    let map : Name := ⟨["java", "util", "Map"], 2, false⟩
    let entry : Name := ⟨["java", "util", "Map", "Entry"], 2, false⟩
    let member : Name := ⟨["java", "util", "Map", "Entry", "copyOf"], 2, true⟩
    parse " java.util.Map" = .ok map ∧ map.nested "Entry" = .ok entry ∧ entry.memberOf "copyOf" = .ok member ∧
      member.enclosing = .ok entry ∧ CheckedAccess.Agrees member ∧
      CheckedAccess.binary member = some ("java.util.Map$Entry.copyOf" : Text) ∧ CheckedAccess.Agrees entry ∧
      CheckedAccess.make ["a", "B"] 0xFFFFFFFFFFFFFFFF true =
        some (.error (.packageLevel "a.B" 0xFFFFFFFFFFFFFFFF 2)) := by
  intro map entry member
  have hmap : parse " java.util.Map" = .ok map := by decide +kernel
  have hentry : map.nested "Entry" = .ok entry := by decide +kernel
  have hmember : entry.memberOf "copyOf" = .ok member := by decide +kernel
  have houter : member.enclosing = .ok entry := by decide +kernel
  have hbuilt : member.Constructible := .memberOf (.nested (.parse hmap) hentry) hmember
  have hagrees := (constructible_in_bounds.1 member hbuilt).2.2.2 (by decide)
  refine ⟨hmap, hentry, hmember, houter, hagrees, hagrees.binary, ?_, ?_⟩
  · exact (constructible_in_bounds.1 entry (.enclosing hbuilt houter)).2.2.2 (by decide)
  · rw [constructible_in_bounds.2.1 _ _ _ (by decide)]
    decide +kernel

end Name

end JavaSource
