import JavaSource.Proofs.Import.Needed

/-!
# Declared types win their simple names

An author who declares a type by itself means its simple name.  So the declaration has precedence over everything that
the document brings: **in whatever order the names occur**, the declared type is written by its last identifier, and
nothing else is written through it.

Two facts meet here.  The first declared type of a simple name holds it before any name is seen, and claims are never
withdrawn (`Assignment.Final.holds_of_declared`).  And whatever is shortened is written through a simple name that its
owner holds, which is the name itself or its top-level type.  That a name of the document *is* the declared one can be
told from its canonical text: a type that was read ends in a capitalized identifier, and so does no member
(`Name.Regular.eq_of_canonical`).
-/

namespace JavaSource

/-! ## Types that were read -/

namespace Name

variable {m n : Name}

/-- A type that was read ends in a capitalized identifier. -/
lemma Parsed.isCapitalized_last (h : n.Parsed) (hp : n.isPackage = false) (hm : n.isMember = false) :
    isCapitalized n.last = true := by
  have hlt : n.level < n.identifiers.length := h.conventional.level_lt hp
  rw [h.eq_byConvention] at hm
  simp only [byConvention, ← h.conventional.level_eq, Bool.and_eq_false_iff, decide_eq_false_iff_not,
    Bool.not_eq_false'] at hm
  rcases hm with htop | hlast
  · -- a top-level type: its last identifier is the one that ended the package
    have hindex : n.identifiers.length - 1 = n.level := by omega
    rw [last, List.getLast?_eq_getElem?, hindex, List.getElem?_eq_getElem hlt]
    exact h.conventional.isCapitalized_getElem_level hlt
  · exact hlast

/-- **The canonical text of a type that was read determines it** among regular names. -/
lemma Regular.eq_of_canonical (hm : m.Regular) (hn : n.Parsed) (hp : n.isPackage = false) (hmember : n.isMember = false)
    (h : m.canonical = n.canonical) : m = n := by
  refine hm.toConventional.eq_of_canonical hn.conventional h ?_
  cases hmm : m.isMember with
  | false => exact hmember.symm
  | true =>
      have hsmall := hm.small hmm
      rw [hm.toConventional.last_eq hn.conventional h, hn.isCapitalized_last hp hmember] at hsmall
      cases hsmall

end Name

/-- Whatever is declared by itself was read. -/
lemma ImportTable.Parsed.singleTypes_parsed {t : ImportTable} (ht : t.Parsed) {n : Name} (hn : n ∈ t.singleTypes) :
    n.Parsed := by
  cases ht.declarable (i := ⟨.singleType, n⟩) (by simp [entries, hn]) with
  | name _ hread => exact hread

/-- The identifiers of a spelling stand between its dots. -/
lemma Style.splitOn_apply {n : Name} (hn : n.WellFormed) (s : Style) : (s.apply n).splitOn '.' = s.parts n := by
  rw [apply_eq_join]
  exact List.splitOn_intercalate '.' (fun i hi => hn.dot_notMem i (parts_subset hn s hi)) (parts_ne_nil hn s)

namespace Assignment

variable {r : Resolver} {s s' : Assignment} {n t : Name} {style : Style}

lemma Move.regular (move : Move r s s') (h : ∀ entry ∈ s.styles, entry.1.Regular) :
    ∀ entry ∈ s'.styles, entry.1.Regular := by
  have recorded : ∀ {l : List (Name × Style)} {n : Name} {style : Style}, l = s.styles → n.Regular →
      ∀ entry ∈ l ++ [(n, style)], entry.1.Regular := by
    intro l n style hl hn entry hentry
    rcases List.mem_append.mp hentry with hentry | hentry
    · exact h entry (hl ▸ hentry)
    · rw [List.mem_singleton.mp hentry]
      exact hn
  cases move with
  | claim simple owner => simpa using h
  | package hn => exact recorded rfl hn
  | member hn => exact recorded rfl hn
  | @type n hn => exact recorded (styles_decideType r n s) hn

/-! ## The declared type holds its simple name -/

/-- The first declared type of a simple name holds it to the end. -/
lemma Final.holds_of_declared (hs : s.Final r) {earlier later : List Name}
    (hdeclared : r.declared.singleTypes = earlier ++ t :: later) (hfirst : ∀ m ∈ earlier, m.last ≠ t.last) :
    s.Holds t.last t := by
  have hfind : r.declared.singleTypes.find? (·.last == t.last) = some t := by
    rw [List.find?_eq_some_iff_append]
    refine ⟨by simp, earlier, later, hdeclared, fun m hm => ?_⟩
    simpa using hfirst m hm
  refine Holds.mono hs.grown ⟨t, ?_, rfl⟩
  rw [lookup_initial, hfind, Option.some_or]

/-- A declared type that holds its simple name is written by it. -/
lemma Settled.eq_last (hp : t.isPackage = false) (hm : t.isMember = false)
    (hdeclared : r.declared.hasSingleType t = true) (hold : s.Holds t.last t) (h : s.Settled r t style) :
    style = .last := by
  have hallows : r.declared.styleFor t = .last :=
    ImportTable.styleFor_eq_last_iff.mpr (ImportTable.allowsLast_of_hasSingleType hm hdeclared)
  cases h with
  | last => rfl
  | static => rfl
  | package hp' => simp [hp] at hp'
  | member hm' => simp [hm] at hm'
  | shortTaken _ _ _ hs => exact absurd hallows hs
  | short _ _ _ hs => simp [hallows] at hs
  | lastTaken _ _ _ taken =>
      obtain ⟨holder, hlook, hne⟩ := taken
      obtain ⟨holder', hlook', hcan⟩ := hold
      rw [hlook, Option.some.injEq] at hlook'
      exact absurd (hlook' ▸ hcan) hne

/-- Whatever is written through a simple name that a type holds belongs to the type. -/
lemma Coherent.of_starts_with (hs : s.Coherent r) (ht : t.Conventional) (hmember : t.isMember = false)
    (hold : s.Holds t.last t) (h : (n, style) ∈ s.styles) (hshort : style.isShortened = true)
    (hstarts : ((style.apply n).splitOn '.').head? = some t.last) :
    n.topLevel? = some t ∨ n.canonical = t.canonical := by
  have hn := hs.conventional h
  have hp := (hs.settled h).not_isPackage hn hshort
  rw [Style.splitOn_apply hn.toWellFormed] at hstarts
  cases style with
  | canonical => simp [Style.isShortened] at hshort
  | last =>
      right
      have hlast : n.last = t.last := by simpa [Style.parts, hp] using hstarts
      exact (hlast ▸ (hs.settled h).holds_of_last).canonical_eq hold
  | short =>
      left
      obtain ⟨top, htop, hstands⟩ := hs.stands_of_short hn (hs.settled h)
      have hlast : top.last = t.last := by
        have hhead := Name.head?_simpleNames hn.toWellFormed htop
        simp only [Style.parts, hp, Bool.false_eq_true, if_false] at hstarts
        rw [hhead, Option.some.injEq] at hstarts
        exact hstarts
      have hcan : top.canonical = t.canonical := (hlast ▸ hstands.holds).canonical_eq hold
      have htopmember := Name.isMember_of_isTopLevel (hn.isTopLevel_topLevel htop)
      rw [htop, (hn.topLevel htop).eq_of_canonical ht hcan (htopmember.trans hmember.symm)]

end Assignment

namespace Resolver

/-- **A declared type wins its simple name**, if no type that is declared before it has the same one.  Wherever the type
occurs it is written by its last identifier, and whatever else is shortened and begins with that identifier has the type
as its top-level type. -/
theorem declared_type_wins (r : Resolver) (hr : r.declared.Parsed) (names : List Name)
    (hnames : ∀ n ∈ names, n.Parsed) {t : Name} {earlier later : List Name}
    (hdeclared : r.declared.singleTypes = earlier ++ t :: later) (hfirst : ∀ m ∈ earlier, m.last ≠ t.last)
    (hp : t.isPackage = false) (hm : t.isMember = false) :
    (∀ {n : Name} {style : Style}, (n, style) ∈ (r.assign names).styles → n.canonical = t.canonical →
        style = .last) ∧
      ∀ {n : Name} {style : Style}, (n, style) ∈ (r.assign names).styles → style.isShortened = true →
        ((style.apply n).splitOn '.').head? = some t.last → n.topLevel? = some t ∨ n = t := by
  have hfinal := r.run_final hnames
  have hmem : t ∈ r.declared.singleTypes := by simp [hdeclared]
  have hread := hr.singleTypes_parsed hmem
  have hold := hfinal.holds_of_declared hdeclared hfirst
  have hregular : ∀ entry ∈ (r.run names).styles, entry.1.Regular :=
    r.run_moves hnames (by simp [(Assignment.initial_spec r).1]) fun move h => move.regular h
  have heq : ∀ {n : Name} {style : Style}, (n, style) ∈ (r.assign names).styles → n.canonical = t.canonical → n = t :=
    fun h hcan => (hregular _ h).eq_of_canonical hread hp hm hcan
  constructor
  · intro n style h hcan
    have hsettled := hfinal.coherent.settled h
    rw [heq h hcan] at hsettled
    exact hsettled.eq_last hp hm (Name.isIn_iff.mpr ⟨t, hmem, rfl⟩) hold
  · intro n style h hshort hstarts
    rcases hfinal.coherent.of_starts_with hread.conventional hm hold h hshort hstarts with htop | hcan
    · exact Or.inl htop
    · exact Or.inr (heq h hcan)

/-- Two declared types of the same simple name and one that is not declared: the first declared one wins, though it occurs
last, and a type that is nested in it is written through it. -/
theorem declared_type_wins_late :
    let other : Name := ⟨["b", "Other"], 1, false⟩
    let winner : Name := ⟨["b", "Foo"], 1, false⟩
    let second : Name := ⟨["c", "Foo"], 1, false⟩
    let stranger : Name := ⟨["a", "Foo"], 1, false⟩
    let inner : Name := ⟨["b", "Foo", "Bar"], 1, false⟩
    let r : Resolver := { package := "com.example", declared := { singleTypes := [other, winner, second] } }
    let names := [stranger, second, inner, winner]
    (r.assign names).styles = [(stranger, .canonical), (second, .canonical), (inner, .short), (winner, .last)] ∧
      (∀ {style : Style}, (winner, style) ∈ (r.assign names).styles → style = .last) ∧
      ((Style.short.apply inner).splitOn '.').head? = some winner.last ∧
      (inner.topLevel? = some winner ∨ inner = winner) := by
  intro other winner second stranger inner r names
  have hdeclared : r.declared.Parsed :=
    ImportTable.Parsed.empty.ofDeclarations
      (rfl : ImportTable.ofDeclarations ["b.Other", "b.Foo", "import c.Foo;"] {} = .ok r.declared)
  have hnames : ∀ n ∈ names, n.Parsed :=
    List.forall_mem_cons.mpr ⟨⟨"a.Foo", rfl⟩, List.forall_mem_cons.mpr ⟨⟨"c.Foo", rfl⟩,
      List.forall_mem_cons.mpr ⟨⟨"b.Foo.Bar", rfl⟩, List.forall_mem_singleton.mpr ⟨"b.Foo", rfl⟩⟩⟩⟩
  have hstyles : (r.assign names).styles =
      [(stranger, .canonical), (second, .canonical), (inner, .short), (winner, .last)] := by
    rw [assign_of_singleStatics_nil _ _ rfl]
    decide +kernel
  have hspelling : ((Style.short.apply inner).splitOn '.').head? = some winner.last := by decide +kernel
  have hsingle : r.declared.singleTypes = [other] ++ winner :: [second] := rfl
  have hwins := declared_type_wins r hdeclared names hnames hsingle
    (List.forall_mem_singleton.mpr (by decide)) rfl rfl
  exact ⟨hstyles, fun h => hwins.1 h rfl, hspelling, hwins.2 (by simp [hstyles]) rfl hspelling⟩

end Resolver

end JavaSource
