import Mathlib.Data.List.Forall2
import JavaSource.Proofs.Import.Order
import JavaSource.Proofs.Import.Steps
import JavaSource.Proofs.Import.Justification

/-!
# Running the pass again

The imports that a pass returns may be declared, and the pass run again on the same names.  This file compares the two
runs decision by decision.

**What changes.**  The types that the first run imported are declared now.  They claim their simple names before any
name is seen, and are written by their last identifier where they were written without their package; for a top-level
type that is the same text (`Style.Alike`).  Declarations that the first run dropped are gone, and with them what they
claimed.

**What carries the comparison.**  `Follows r final s s'` relates a state of the first run to the state of the second
one at the same name.  A simple name that was claimed in the first run is claimed in the second; the second may be
ahead, but never of what the first run ends with (`final`).  So both runs answer a claim alike (`Follows.claim`), unless
the simple name was claimed by a declaration that is dropped: `Resolver.Keeps` excludes this, name by name.
-/

namespace JavaSource

/-! ## Spellings that are alike -/

lemma Name.short_eq_last {n : Name} (h : n.isTopLevel = true) : n.short = n.last := by
  simp only [isTopLevel, size, Bool.and_eq_true, beq_iff_eq] at h
  obtain ⟨-, hsize⟩ := h
  have hlt : n.level < n.identifiers.length := by omega
  have hnext : n.identifiers.length ≤ n.level + 1 := by omega
  have hlast : n.identifiers.getLast? = some n.identifiers[n.level] := by
    rw [List.getLast?_eq_getElem?, hsize, Nat.add_sub_cancel, List.getElem?_eq_getElem hlt]
  rw [short, simpleNames, List.drop_eq_getElem_cons hlt, List.drop_of_length_le hnext, last, hlast, Option.getD_some]
  exact List.intercalate_singleton ..

/-- The second style writes the name as the first one does: it is the same, or a top-level type is written by its last
identifier and was written without its package. -/
def Style.Alike (n : Name) (s t : Style) : Prop := t = s ∨ n.isTopLevel = true ∧ s = .short ∧ t = .last

namespace Style.Alike

variable {n : Name} {s t : Style}

lemma refl (n : Name) (s : Style) : Alike n s s := Or.inl rfl

lemma apply_eq (h : Alike n s t) : t.apply n = s.apply n := by
  rcases h with rfl | ⟨htop, rfl, rfl⟩
  · rfl
  · simp only [Style.apply, Name.short_eq_last htop]

/-- A member does not see the difference. -/
lemma ofMember_eq (h : Alike n s t) : t.ofMember n = s.ofMember n := by
  rcases h with rfl | ⟨htop, rfl, rfl⟩
  · rfl
  · simp only [Style.ofMember, htop, if_true]

end Style.Alike

/-! ## Claims before the pass -/

namespace Assignment

/-- Before the pass a simple name belongs to the first declared type of that simple name, or else to the first
declared member. -/
lemma lookup_initial (r : Resolver) (x : Text) :
    (initial r).claims.lookup x =
      (r.declared.singleTypes.find? (·.last == x)).or (r.declared.staticMembers.find? (·.last == x)) := by
  have claims : ∀ (owners : List Name) (s : Assignment),
      (owners.foldl (fun s n => (s.claim n.last n).2) s).claims.lookup x =
        (s.claims.lookup x).or (owners.find? (·.last == x)) := by
    intro owners
    induction owners with
    | nil => simp
    | cons n owners ih =>
        intro s
        rw [List.foldl_cons, ih, lookup_claim, Option.or_assoc]
        congr 1
        by_cases hx : x = n.last
        · simp [hx]
        · simp [hx, beq_false_of_ne (Ne.symm hx)]
  rw [← List.find?_append]
  exact (claims _ _).trans (Option.none_or)

end Assignment

/-! ## The second run beside the first -/

/-- The resolver that declares what the pass has ended with. -/
def Resolver.after (r : Resolver) (final : Assignment) : Resolver :=
  { r with declared := final.neededImports r }

/-- The declared type that claims the simple name before the pass, if there is one, is among these imports. -/
def Resolver.Keeps (r : Resolver) (t : ImportTable) (simple : Text) : Prop :=
  ∀ n, r.declared.singleTypes.find? (·.last == simple) = some n → t.hasSingleType n = true

namespace Assignment

/-- A first run that has ended. -/
structure Ended (r : Resolver) (final : Assignment) : Prop extends final.Final r where
  declared : r.declared.Parsed
  accounted : final.Accounted r

/-- A state of the second run beside the state of the first one at the same name. -/
structure Follows (r : Resolver) (final s s' : Assignment) : Prop where
  /-- What is claimed in the first run is claimed in the second. -/
  behind : ∀ {x : Text} {holder : Name}, r.Keeps (final.neededImports r) x →
    s.claims.lookup x = some holder → s'.Holds x holder
  /-- What is claimed in the second run is claimed in the first, sooner or later. -/
  ahead : ∀ {x : Text} {holder : Name}, r.Keeps (final.neededImports r) x →
    s'.claims.lookup x = some holder → final.Holds x holder
  styles : List.Forall₂ (fun entry entry' => entry'.1 = entry.1 ∧ Style.Alike entry.1 entry.2 entry'.2)
    s.styles s'.styles
  imports : s'.imports = final.neededImports r
  used : s'.used = s.used

variable {r : Resolver} {final s s' : Assignment} {n top : Name}

/-- **Both runs answer a claim alike.** -/
lemma Follows.claim (h : Follows r final s s') {simple : Text} (hk : r.Keeps (final.neededImports r) simple)
    (owner : Name) (g : (s.claim simple owner).2.Grows final) :
    (s'.claim simple owner).1 = (s.claim simple owner).1 ∧
      Follows r final (s.claim simple owner).2 (s'.claim simple owner).2 := by
  have hlookup := lookup_claim s simple owner simple
  have hlookup' := lookup_claim s' simple owner simple
  rw [if_pos rfl, Option.or_some] at hlookup hlookup'
  have hfinal := g.claims.lookup_eq_some hlookup
  -- whoever holds the simple name in the second run now, holds it in the end, and so does the first run's owner
  have hsame : ((s'.claims.lookup simple).getD owner).canonical = ((s.claims.lookup simple).getD owner).canonical := by
    cases hs : s.claims.lookup simple with
    | some holder =>
        obtain ⟨holder', hs', hcan⟩ := h.behind hk hs
        rw [hs']
        exact hcan
    | none =>
        cases hs' : s'.claims.lookup simple with
        | none => rfl
        | some holder' =>
            obtain ⟨last, hlast, hcan⟩ := h.ahead hk hs'
            rw [hs, hlast] at hfinal
            rw [← Option.some.inj hfinal, hcan]
            rfl
  constructor
  · simp only [fst_claim, Name.same, hsame]
  · refine ⟨?_, ?_, by simpa using h.styles, by simpa using h.imports, by simpa using h.used⟩
    · intro x holder hx hlook
      rw [lookup_claim, Option.or_eq_some_iff] at hlook
      rcases hlook with hlook | ⟨hnone, hnew⟩
      · exact (h.behind hx hlook).mono (grows_claim s' simple owner)
      · obtain ⟨rfl, rfl⟩ : x = simple ∧ owner = holder := by simpa using hnew
        rw [hnone] at hsame
        exact ⟨_, hlookup', hsame⟩
    · intro x holder hx hlook
      rw [lookup_claim, Option.or_eq_some_iff] at hlook
      rcases hlook with hlook | ⟨hnone, hnew⟩
      · exact h.ahead hx hlook
      · obtain ⟨rfl, rfl⟩ : x = simple ∧ owner = holder := by simpa using hnew
        rw [hnone] at hsame
        exact ⟨_, hfinal, hsame.symm⟩

lemma Follows.use (h : Follows r final s s') (n : Name) : Follows r final (s.use n) (s'.use n) :=
  ⟨h.behind, h.ahead, h.styles, h.imports, by simp only [Assignment.use, h.used]⟩

lemma Follows.record (h : Follows r final s s') {style style' : Style} (ha : Style.Alike n style style') :
    Follows r final (s.record n style) (s'.record n style') :=
  ⟨h.behind, h.ahead, List.rel_append h.styles (.cons ⟨rfl, ha⟩ .nil), h.imports, h.used⟩

/-- A name is decided in both runs or in neither, and alike. -/
lemma Follows.styleOf? (h : Follows r final s s') (hs : s.Coherent r) (hn : n.Conventional) :
    s.styleOf? n = none ∧ s'.styleOf? n = none ∨
      ∃ style style', s.styleOf? n = some style ∧ s'.styleOf? n = some style' ∧ Style.Alike n style style' := by
  have find : ∀ {l l' : List (Name × Style)}, (∀ entry ∈ l, entry.1.Conventional) →
      List.Forall₂ (fun entry entry' => entry'.1 = entry.1 ∧ Style.Alike entry.1 entry.2 entry'.2) l l' →
      (l.find? (·.1.same n)) = none ∧ (l'.find? (·.1.same n)) = none ∨
        ∃ entry entry', l.find? (·.1.same n) = some entry ∧ l'.find? (·.1.same n) = some entry' ∧
          Style.Alike n entry.2 entry'.2 := by
    intro l l' hconv hall
    induction hall with
    | nil => exact Or.inl ⟨rfl, rfl⟩
    | @cons entry entry' l l' hentry _ ih =>
        simp only [List.find?_cons, hentry.1]
        cases hsame : entry.1.same n with
        | true =>
            refine Or.inr ⟨entry, entry', rfl, rfl, ?_⟩
            have htop := (hconv entry (List.mem_cons_self ..)).isTopLevel_eq hn (Name.same_iff.mp hsame)
            simpa only [Style.Alike, htop] using hentry.2
        | false => exact ih fun e he => hconv e (List.mem_cons_of_mem _ he)
  rcases find (fun entry he => hs.conventional he) h.styles with ⟨h₁, h₂⟩ | ⟨entry, entry', h₁, h₂, ha⟩
  · exact Or.inl ⟨by simp only [Assignment.styleOf?, Style.decided?, h₁, Option.map_none],
      by simp only [Assignment.styleOf?, Style.decided?, h₂, Option.map_none]⟩
  · exact Or.inr ⟨entry.2, entry'.2, by simp only [Assignment.styleOf?, Style.decided?, h₁, Option.map_some],
      by simp only [Assignment.styleOf?, Style.decided?, h₂, Option.map_some], ha⟩

/-! ## What the second run may do with a type -/

lemma Ended.hasSingleType_cases (e : Ended r final) (hn : n.Conventional) (hm : n.isMember = false)
    (h : (final.neededImports r).hasSingleType n = true) :
    r.declared.hasSingleType n = true ∨ final.Added r n := by
  obtain ⟨m, hmem, hcan⟩ := Name.isIn_iff.mp h
  have hmem' : m ∈ final.imports.singleTypes := by
    simp only [neededImports] at hmem
    split at hmem
    · exact (List.mem_filter.mp hmem).1
    · exact hmem
  rcases e.accounted m hmem' with hdeclared | hadded
  · exact Or.inl (Name.isIn_iff.mpr ⟨m, hdeclared, hcan⟩)
  · right
    have hmember := Name.isMember_of_isTopLevel hadded.isTopLevel
    rwa [← hadded.conventional.eq_of_canonical hn hcan (hmember.trans hm.symm)]

/-- Beside single types the two tables declare the same, so only these can make a difference for a type. -/
lemma Ended.styleFor_eq (e : Ended r final) (hm : n.isMember = false)
    (h : (final.neededImports r).hasSingleType n = r.declared.hasSingleType n) :
    (final.neededImports r).styleFor n = r.declared.styleFor n := by
  have hlast : (final.neededImports r).allowsLast n = r.declared.allowsLast n := by
    simp only [ImportTable.hasSingleType] at h
    simp [ImportTable.allowsLast, ImportTable.hasSingle, hm, h, e.singleStatics, e.typesOnDemand]
  have hshort : (final.neededImports r).allowsShort n = r.declared.allowsShort n := by
    simp only [ImportTable.allowsShort, e.typesOnDemand]
  simp only [ImportTable.styleFor, hlast, hshort]

/-- A type of a package declared on demand stays one. -/
lemma Ended.styleFor_of_short (e : Ended r final) (hn : n.Conventional) (hm : n.isMember = false)
    (h : r.declared.styleFor n = .short) : (final.neededImports r).styleFor n = .short := by
  obtain ⟨hlast, hshort⟩ := ImportTable.styleFor_eq_short_iff.mp h
  have hnone := ImportTable.hasSingleType_of_allowsLast hm hlast
  have hnone' : (final.neededImports r).hasSingleType n = false := by
    by_contra hsingle
    rcases e.hasSingleType_cases hn hm (by simpa using hsingle) with hdeclared | hadded
    · rw [hnone] at hdeclared
      exact Bool.noConfusion hdeclared
    · rw [hadded.uncovered] at hshort
      exact Bool.noConfusion hshort
  rw [e.styleFor_eq hm (hnone'.trans hnone.symm), h]

/-- A type that no declaration covered is declared now if the first run has imported it, and is not covered
otherwise. -/
lemma Ended.styleFor_of_canonical (e : Ended r final) (hn : n.Conventional) (hm : n.isMember = false)
    (h : r.declared.styleFor n = .canonical) :
    (final.neededImports r).styleFor n = .last ∧ final.Added r n ∨
      (final.neededImports r).styleFor n = .canonical := by
  obtain ⟨hlast, -⟩ := ImportTable.styleFor_eq_canonical_iff.mp h
  have hnone := ImportTable.hasSingleType_of_allowsLast hm hlast
  cases hsingle : (final.neededImports r).hasSingleType n with
  | true =>
      refine Or.inl ⟨?_, ?_⟩
      · exact ImportTable.styleFor_eq_last_iff.mpr (ImportTable.allowsLast_of_hasSingleType hm hsingle)
      · rcases e.hasSingleType_cases hn hm hsingle with hdeclared | hadded
        · rw [hnone] at hdeclared
          exact Bool.noConfusion hdeclared
        · exact hadded
  | false => exact Or.inr (by rw [e.styleFor_eq hm (hsingle.trans hnone.symm), h])

end Assignment

/-! ## What keeps a decision -/

/-- Dropped declarations do not matter for a type: the simple name that it asks for was not theirs, and a nested type
keeps its own declaration. -/
structure Resolver.SteadyType (r : Resolver) (t : ImportTable) (n : Name) : Prop where
  last : r.declared.styleFor n = .last → r.Keeps t n.last
  top : r.declared.styleFor n ≠ .last → ∀ top, n.topLevel? = some top → r.Keeps t top.last
  own : n.isTopLevel = false → r.declared.hasSingleType n = true → t.hasSingleType n = true

/-- Dropped declarations do not matter for a name: not for the type that it is or belongs to, and not for the
identifier that a member asks for under a static declaration. -/
structure Resolver.Steady (r : Resolver) (t : ImportTable) (n : Name) : Prop where
  type : n.isPackage = false → n.isMember = false → r.SteadyType t n
  static : r.declared.hasStatic n = true → r.Keeps t n.last
  enclosing : n.isMember = true → ∀ outer, n.enclosing? = some outer → r.SteadyType t outer

namespace Assignment

variable {r : Resolver} {final s s' : Assignment} {n : Name}

/-- Two decisions about a name that come to the same. -/
structure Matches (r : Resolver) (final : Assignment) (n : Name) (d d' : Style × Assignment) : Prop where
  alike : Style.Alike n d.1 d'.1
  follows : Follows r final d.2 d'.2

/-- Imports of the first run do not enter the comparison. -/
lemma Follows.require (h : Follows r final s s') (top : Name) : Follows r final (s.require r top) s' := by
  unfold Assignment.require
  split
  · exact h
  · exact ⟨h.behind, h.ahead, h.styles, h.imports, h.used⟩

/-- Whoever owns the simple name in the end is granted it. -/
lemma fst_claim_of_holds {simple : Text} {owner : Name} (g : (s.claim simple owner).2.Grows final)
    (hold : final.Holds simple owner) : (s.claim simple owner).1 = true := by
  have hlookup := lookup_claim s simple owner simple
  rw [if_pos rfl, Option.or_some] at hlookup
  obtain ⟨holder, hholder, hcan⟩ := hold
  rw [g.claims.lookup_eq_some hlookup, Option.some.injEq] at hholder
  rw [fst_claim, hholder]
  exact Name.same_iff.mpr hcan

/-- A type that is declared by itself and has lost its declaration was refused its simple name. -/
lemma Ended.fst_claim_of_dropped (e : Ended r final) (hn : n.Conventional)
    (hkeeps : r.Keeps (final.neededImports r) n.last) (hinit : (initial r).Grows s)
    (hdeclared : r.declared.hasSingleType n = true)
    (hdropped : (final.neededImports r).hasSingleType n = false) : (s.claim n.last n).1 = false := by
  obtain ⟨m, hm, hcan⟩ := Name.isIn_iff.mp hdeclared
  have hlast := (e.declared.singleTypes_conventional hm).last_eq hn hcan
  obtain ⟨first, hfirst⟩ : ∃ first, r.declared.singleTypes.find? (·.last == n.last) = some first := by
    rw [← Option.isSome_iff_exists, List.find?_isSome]
    exact ⟨m, hm, beq_iff_eq.mpr hlast⟩
  have hlookup : (initial r).claims.lookup n.last = some first := by
    rw [lookup_initial, hfirst, Option.some_or]
  rw [fst_claim, hinit.claims.lookup_eq_some hlookup, Option.getD_some]
  cases hsame : first.same n with
  | false => rfl
  | true =>
      obtain ⟨kept, hkept, hcan'⟩ := Name.isIn_iff.mp (hkeeps first hfirst)
      have : (final.neededImports r).hasSingleType n = true :=
        Name.isIn_iff.mpr ⟨kept, hkept, hcan'.trans (Name.same_iff.mp hsame)⟩
      rw [this] at hdropped
      exact Bool.noConfusion hdropped

lemma Ended.matches_of_last (e : Ended r final) (hn : n.Conventional) (hm : n.isMember = false)
    (hsteady : r.SteadyType (final.neededImports r) n) (hstyle : r.declared.styleFor n = .last)
    (hinit : (initial r).Grows s) (h : Follows r final s s') (g : (s.decideType r n).2.Grows final) :
    Matches r final n (s.decideType r n) (s'.decideType (r.after final) n) := by
  have hkeeps := hsteady.last hstyle
  rw [decideType_of_last s hstyle] at g ⊢
  have g' : (s.claim n.last n).2.Grows final := by
    split at g
    · exact (grows_use n _).trans g
    · exact g
  obtain ⟨hanswer, hfollows⟩ := h.claim hkeeps n g'
  by_cases hstyle' : (r.after final).declared.styleFor n = .last
  · rw [decideType_of_last s' hstyle', hanswer]
    split
    · exact ⟨.refl n _, hfollows.use n⟩
    · exact ⟨.refl n _, hfollows⟩
  · -- the type has lost its declaration, so it is a top-level type, and in both runs somebody else has its simple name
    have hdropped : (final.neededImports r).hasSingleType n = false := by
      by_contra hkept
      have hkept' : (final.neededImports r).hasSingleType n = true := by simpa using hkept
      exact hstyle' (ImportTable.styleFor_eq_last_iff.mpr (ImportTable.allowsLast_of_hasSingleType hm hkept'))
    have hdeclared : r.declared.hasSingleType n = true := by
      by_contra hnot
      have hsame : (final.neededImports r).hasSingleType n = r.declared.hasSingleType n := by
        rw [hdropped]
        simpa using hnot
      exact hstyle' ((e.styleFor_eq hm hsame).trans hstyle)
    have htop : n.isTopLevel = true := by
      by_contra hnested
      rw [hsteady.own (by simpa using hnested) hdeclared] at hdropped
      exact Bool.noConfusion hdropped
    have hrefused := e.fst_claim_of_dropped hn hkeeps hinit hdeclared hdropped
    have ht := Name.topLevel?_of_isTopLevel htop
    have hd' : s'.decideType (r.after final) n = (.canonical, (s'.claim n.last n).2) := by
      cases hafter : (r.after final).declared.styleFor n with
      | last => exact absurd hafter hstyle'
      | short => simp [decideType_of_short s' hafter ht, hanswer, hrefused]
      | canonical => simp [decideType_of_canonical s' hafter ht, hanswer, hrefused]
    rw [hd', hrefused]
    exact ⟨.refl n _, hfollows⟩

lemma Ended.matches_of_canonical (e : Ended r final) (hn : n.Conventional) (hm : n.isMember = false) {top : Name}
    (ht : n.topLevel? = some top) (hkeeps : r.Keeps (final.neededImports r) top.last)
    (hstyle : r.declared.styleFor n = .canonical) (h : Follows r final s s')
    (g : (s.decideType r n).2.Grows final) :
    Matches r final n (s.decideType r n) (s'.decideType (r.after final) n) := by
  rw [decideType_of_canonical s hstyle ht] at g ⊢
  have g' : (s.claim top.last top).2.Grows final := by
    split at g
    · exact ((grows_require r top _).trans (grows_use top _)).trans g
    · exact g
  obtain ⟨hanswer, hfollows⟩ := h.claim hkeeps top g'
  rcases e.styleFor_of_canonical hn hm hstyle with ⟨hstyle', hadded⟩ | hstyle'
  · -- the first run has imported this very type, so both runs grant it its simple name
    have hself := Name.topLevel?_of_isTopLevel hadded.isTopLevel
    rw [ht, Option.some.injEq] at hself
    subst hself
    have hgranted := fst_claim_of_holds g' hadded.holds
    rw [decideType_of_last s' hstyle', hanswer, hgranted]
    exact ⟨Or.inr ⟨hadded.isTopLevel, rfl, rfl⟩, (hfollows.require top).use top⟩
  · rw [decideType_of_canonical s' hstyle' ht, hanswer]
    split
    · rename_i hgranted
      rw [if_pos hgranted] at g
      have hscope : r.isVisible top.package = true ∨ (final.neededImports r).hasSingleType top = true := by
        refine (visible_or_imported r top (s.claim top.last top).2).imp id fun himported => ?_
        exact hasSingleType_neededImports (hasSingleType_mono ((grows_use top _).trans g) himported)
          (g.used (List.mem_cons_self ..))
      have hrequire : (s'.claim top.last top).2.require (r.after final) top = (s'.claim top.last top).2 := by
        rw [Assignment.require, if_pos]
        rw [hfollows.imports, Bool.or_eq_true]
        exact hscope
      rw [hrequire]
      exact ⟨.refl n _, (hfollows.require top).use top⟩
    · exact ⟨.refl n _, hfollows⟩

/-- **Both runs decide a type alike.** -/
lemma Ended.decideType_matches (e : Ended r final) (hn : n.Conventional) (hp : n.isPackage = false)
    (hm : n.isMember = false) (hsteady : r.SteadyType (final.neededImports r) n) (hinit : (initial r).Grows s)
    (h : Follows r final s s') (g : (s.decideType r n).2.Grows final) :
    Matches r final n (s.decideType r n) (s'.decideType (r.after final) n) := by
  obtain ⟨top, ht⟩ : ∃ top, n.topLevel? = some top := ⟨_, Name.topLevel?_of_not_isPackage hp⟩
  cases hstyle : r.declared.styleFor n with
  | last => exact e.matches_of_last hn hm hsteady hstyle hinit h g
  | canonical => exact e.matches_of_canonical hn hm ht (hsteady.top (by rw [hstyle]; simp) top ht) hstyle h g
  | short =>
      have hstyle' : (r.after final).declared.styleFor n = .short := e.styleFor_of_short hn hm hstyle
      have hkeeps := hsteady.top (by rw [hstyle]; simp) top ht
      rw [decideType_of_short s hstyle ht] at g ⊢
      have g' : (s.claim top.last top).2.Grows final := by
        split at g <;> exact g
      obtain ⟨hanswer, hfollows⟩ := h.claim hkeeps top g'
      rw [decideType_of_short s' hstyle' ht, hanswer]
      split
      · exact ⟨.refl n _, hfollows⟩
      · exact ⟨.refl n _, hfollows⟩

lemma Ended.decidePlain_matches (e : Ended r final) (hs : s.Coherent r) (hn : n.Conventional)
    (hm : n.isPackage = false → n.isMember = false)
    (hsteady : n.isPackage = false → r.SteadyType (final.neededImports r) n) (hinit : (initial r).Grows s)
    (h : Follows r final s s') (g : (s.decidePlain r n).2.Grows final) :
    Matches r final n (s.decidePlain r n) (s'.decidePlain (r.after final) n) := by
  unfold decidePlain at g ⊢
  rcases h.styleOf? hs hn with ⟨hnone, hnone'⟩ | ⟨style, style', hknown, hknown', ha⟩
  · rw [hnone] at g ⊢
    rw [hnone']
    cases hp : n.isPackage with
    | true => exact ⟨.refl n _, h.record (.refl n _)⟩
    | false =>
        simp only [hp, Bool.false_eq_true, if_false] at g ⊢
        have hd := e.decideType_matches hn hp (hm hp) (hsteady hp) hinit h ((grows_record n _ _).trans g)
        exact ⟨hd.alike, hd.follows.record hd.alike⟩
  · rw [hknown, hknown']
    exact ⟨ha, h⟩

lemma Ended.decideByType_matches (e : Ended r final) (hs : s.Coherent r) (hn : n.Conventional)
    (hm : n.isMember = true) (hsteady : r.Steady (final.neededImports r) n) (hinit : (initial r).Grows s)
    (h : Follows r final s s') (g : (s.decideByType r n).2.Grows final) :
    Matches r final n (s.decideByType r n) (s'.decideByType (r.after final) n) := by
  obtain ⟨outer, he⟩ := hn.exists_enclosing hm
  have houter := hn.enclosing_of_member hm he
  rw [decideByType_eq r s he] at g ⊢
  rw [decideByType_eq (r.after final) s' he]
  have hd := e.decidePlain_matches hs (hn.enclosing he) (fun _ => by rw [houter])
    (fun _ => hsteady.enclosing hm outer he) hinit h g
  exact ⟨Or.inl hd.alike.ofMember_eq, hd.follows⟩

lemma Ended.decideMember_matches (e : Ended r final) (hs : s.Coherent r) (hn : n.Conventional)
    (hm : n.isMember = true) (hsteady : r.Steady (final.neededImports r) n) (hinit : (initial r).Grows s)
    (h : Follows r final s s') (g : (s.decideMember r n).2.Grows final) :
    Matches r final n (s.decideMember r n) (s'.decideMember (r.after final) n) := by
  have hstatic' : (r.after final).declared.hasStatic n = r.declared.hasStatic n := by
    simp only [ImportTable.hasStatic, Resolver.after, e.singleStatics, e.staticsOnDemand]
  cases hstatic : r.declared.hasStatic n with
  | false =>
      rw [hstatic] at hstatic'
      simp only [decideMember, hstatic, hstatic', Bool.false_eq_true, if_false] at g ⊢
      exact e.decideByType_matches hs hn hm hsteady hinit h g
  | true =>
      rw [decideMember_of_static s hstatic] at g ⊢
      have gc := grows_claim s n.last n
      have g' : (s.claim n.last n).2.Grows final := by
        split at g
        · exact g
        · exact (grows_decideByType r n _).trans g
      obtain ⟨hanswer, hfollows⟩ := h.claim (hsteady.static hstatic) n g'
      rw [decideMember_of_static s' (hstatic'.trans hstatic), hanswer]
      split
      · exact ⟨.refl n _, hfollows⟩
      · rename_i hrefused
        rw [if_neg hrefused] at g
        exact e.decideByType_matches (hs.grow gc (styles_claim s n.last n)) hn hm hsteady (hinit.trans gc) hfollows g

/-- **Both runs decide a name alike.** -/
lemma Ended.decide_matches (e : Ended r final) (hs : s.Coherent r) (hn : n.Conventional)
    (hsteady : r.Steady (final.neededImports r) n) (hinit : (initial r).Grows s) (h : Follows r final s s')
    (g : (s.decide r n).2.Grows final) :
    Matches r final n (s.decide r n) (s'.decide (r.after final) n) := by
  unfold Assignment.decide at g ⊢
  split
  · rename_i hplain
    rw [if_pos hplain] at g
    have hm : n.isPackage = false → n.isMember = false := fun hp => by simpa [hp] using hplain
    exact e.decidePlain_matches hs hn hm (fun hp => hsteady.type hp (hm hp)) hinit h g
  · rename_i hmember
    rw [if_neg hmember] at g
    have hm : n.isMember = true := by simp_all
    rcases h.styleOf? hs hn with ⟨hnone, hnone'⟩ | ⟨style, style', hknown, hknown', ha⟩
    · rw [hnone] at g ⊢
      rw [hnone']
      have hd := e.decideMember_matches hs hn hm hsteady hinit h ((grows_record n _ _).trans g)
      exact ⟨hd.alike, hd.follows.record hd.alike⟩
    · rw [hknown, hknown']
      exact ⟨ha, h⟩

/-- The two runs, side by side from any point on. -/
lemma Ended.foldl_follows (e : Ended r final) : ∀ (names : List Name) (s s' : Assignment),
    (∀ n ∈ names, n.Conventional) → (∀ n ∈ names, r.Steady (final.neededImports r) n) → s.Coherent r →
      (initial r).Grows s → Follows r final s s' → names.foldl (fun s n => (s.decide r n).2) s = final →
      Follows r final final (names.foldl (fun s n => (s.decide (r.after final) n).2) s')
  | [], s, s', _, _, _, _, h, hend => by
      rw [List.foldl_nil] at hend
      rwa [hend] at h
  | n :: names, s, s', hn, hsteady, hs, hinit, h, hend => by
      have hn' := hn n (List.mem_cons_self ..)
      have hd := decide_spec hs hn'
      have hnames : ∀ m ∈ names, m.Conventional := fun m hm => hn m (List.mem_cons_of_mem _ hm)
      have g : (s.decide r n).2.Grows final := hend ▸ grows_foldl_decide r names _
      have hmatch := e.decide_matches hs hn' (hsteady n (List.mem_cons_self ..)) hinit h g
      exact e.foldl_follows names _ _ hnames (fun m hm => hsteady m (List.mem_cons_of_mem _ hm)) hd.coherent
        (hinit.trans hd.grows) hmatch.follows hend

/-- Pruning twice is pruning once. -/
lemma Follows.neededImports (h : Follows r final final s') :
    s'.neededImports (r.after final) = final.neededImports r := by
  have hprune : (r.after final).prune = r.prune := rfl
  rw [Assignment.neededImports, hprune, h.imports, h.used]
  cases hp : r.prune with
  | false => rfl
  | true => simp [Assignment.neededImports, hp, ImportTable.retain, List.filter_filter]

/-! ## Before the second run -/

lemma singleTypes_neededImports (r : Resolver) (s : Assignment) : (s.neededImports r).singleTypes =
    s.imports.singleTypes.filter fun n => !r.prune || n.isIn s.used := by
  unfold neededImports
  cases r.prune with
  | false => simp
  | true => simp [ImportTable.retain]

/-- A declared type that claims its simple name before the first run, and is kept, does so before the second. -/
lemma Ended.find?_singleTypes (e : Ended r final) {x : Text} {first : Name}
    (hfirst : r.declared.singleTypes.find? (·.last == x) = some first)
    (hkept : (final.neededImports r).hasSingleType first = true) :
    (final.neededImports r).singleTypes.find? (·.last == x) = some first := by
  obtain ⟨added, hadded⟩ := e.grown.singleTypes
  rw [(initial_spec r).2] at hadded
  have hkeep : (!r.prune || first.isIn final.used) = true := by
    obtain ⟨m, hm, hcan⟩ := Name.isIn_iff.mp hkept
    rw [singleTypes_neededImports] at hm
    rcases Bool.or_eq_true_iff.mp (List.mem_filter.mp hm).2 with hprune | hused
    · simp [hprune]
    · obtain ⟨u, hu, hcan'⟩ := Name.isIn_iff.mp hused
      exact Bool.or_eq_true_iff.mpr (Or.inr (Name.isIn_iff.mpr ⟨u, hu, hcan'.trans hcan⟩))
  obtain ⟨hx, before, behind, hsplit, hbefore⟩ := List.find?_eq_some_iff_append.mp hfirst
  have hkeptFirst : r.declared.singleTypes.find?
      (fun n => Decidable.decide ((!r.prune || n.isIn final.used) = true ∧ (n.last == x) = true)) = some first := by
    refine List.find?_eq_some_iff_append.mpr
      ⟨by simp only [hkeep, hx, true_and, decide_true], before, behind, hsplit, ?_⟩
    intro n hn
    have := hbefore n hn
    simp_all
  rw [singleTypes_neededImports, ← hadded, List.find?_filter, List.find?_append, hkeptFirst, Option.some_or]

lemma Ended.staticMembers_after (e : Ended r final) :
    (r.after final).declared.staticMembers = r.declared.staticMembers :=
  e.declared.staticMembers_eq e.singleStatics

/-- Both runs begin alike, but for the types that the first one will import. -/
lemma Ended.initial_follows (e : Ended r final) : Follows r final (initial r) (initial (r.after final)) := by
  have hlookup' : ∀ x, (initial (r.after final)).claims.lookup x =
      ((final.neededImports r).singleTypes.find? (·.last == x)).or (r.declared.staticMembers.find? (·.last == x)) := by
    intro x
    rw [lookup_initial, e.staticMembers_after]
    rfl
  -- either the simple name has the same owner in both, or the first run will import a type of that simple name
  have hcases : ∀ x, r.Keeps (final.neededImports r) x →
      (initial (r.after final)).claims.lookup x = (initial r).claims.lookup x ∨
        ∃ t, (initial (r.after final)).claims.lookup x = some t ∧ t.last = x ∧ final.Added r t := by
    intro x hkeeps
    rw [hlookup', lookup_initial]
    cases hfirst : r.declared.singleTypes.find? (·.last == x) with
    | some first =>
        rw [e.find?_singleTypes hfirst (hkeeps first hfirst)]
        exact Or.inl rfl
    | none =>
        cases hfound : (final.neededImports r).singleTypes.find? (·.last == x) with
        | none => exact Or.inl rfl
        | some t =>
            have hlast : (t.last == x) = true := by simpa using List.find?_some hfound
            refine Or.inr ⟨t, rfl, beq_iff_eq.mp hlast, ?_⟩
            have hmem := List.mem_of_find?_eq_some hfound
            rw [singleTypes_neededImports] at hmem
            refine (e.accounted t (List.mem_filter.mp hmem).1).resolve_left fun hdeclared => ?_
            exact List.find?_eq_none.mp hfirst t hdeclared hlast
  refine ⟨?_, ?_, ?_, (initial_spec _).2, (used_initial _).trans (used_initial _).symm⟩
  · intro x holder hkeeps hlook
    rcases hcases x hkeeps with hsame | ⟨t, hlook', hlast, hadded⟩
    · exact ⟨holder, hsame.trans hlook, rfl⟩
    · refine ⟨t, hlook', ?_⟩
      have hfinal : final.Holds x holder := ⟨holder, e.grown.claims.lookup_eq_some hlook, rfl⟩
      exact (hlast ▸ hadded.holds).canonical_eq hfinal
  · intro x holder hkeeps hlook
    rcases hcases x hkeeps with hsame | ⟨t, hlook', hlast, hadded⟩
    · exact ⟨holder, e.grown.claims.lookup_eq_some (hsame ▸ hlook), rfl⟩
    · rw [hlook', Option.some.injEq] at hlook
      subst hlook
      exact hlast ▸ hadded.holds
  · rw [(initial_spec r).1, (initial_spec (r.after final)).1]
    exact .nil

end Assignment

/-! ## The whole second run -/

namespace Resolver

variable {r : Resolver} {names : List Name}

lemma run_ended (hr : r.declared.Parsed) (hnames : ∀ n ∈ names, n.Parsed) : (r.run names).Ended r :=
  ⟨r.run_final hnames, hr, r.run_imports hnames⟩

/-- **The second run follows the first one to the end.** -/
lemma run_after_follows (hr : r.declared.Parsed) (hnames : ∀ n ∈ names, n.Parsed)
    (hsteady : ∀ n ∈ names, r.Steady (r.assign names).imports n) :
    Assignment.Follows r (r.run names) (r.run names) ((r.after (r.run names)).run names) := by
  have e := run_ended hr hnames
  have hnil := (Assignment.initial_spec r).1
  have hinitial : (Assignment.initial r).Coherent r := ⟨by simp [hnil], by simp [hnil]⟩
  exact e.foldl_follows names _ _ (fun n hn => (hnames n hn).conventional) hsteady hinitial
    (Assignment.Grows.refl _) e.initial_follows rfl

lemma imports_assign_after (hr : r.declared.Parsed) (hnames : ∀ n ∈ names, n.Parsed)
    (hsteady : ∀ n ∈ names, r.Steady (r.assign names).imports n) :
    ((r.after (r.run names)).assign names).imports = (r.assign names).imports :=
  (run_after_follows hr hnames hsteady).neededImports

lemma get?_assign_after (hr : r.declared.Parsed) (hnames : ∀ n ∈ names, n.Parsed)
    (hsteady : ∀ n ∈ names, r.Steady (r.assign names).imports n) {n : Name} (hn : n ∈ names) :
    ∃ style style', (r.assign names).get? n = some style ∧
      ((r.after (r.run names)).assign names).get? n = some style' ∧ Style.Alike n style style' := by
  obtain ⟨style, hstyle⟩ := r.run_decides hnames hn
  rcases (run_after_follows hr hnames hsteady).styleOf? (r.run_final hnames).coherent (hnames n hn).conventional with
    ⟨hnone, -⟩ | ⟨style, style', h, h', ha⟩
  · rw [hnone] at hstyle
    cases hstyle
  · exact ⟨style, style', h, h', ha⟩

end Resolver

end JavaSource
