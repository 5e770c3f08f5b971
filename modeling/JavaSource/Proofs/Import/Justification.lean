import JavaSource.Proofs.Import.Pass

/-!
# Imports that justify spellings

A name that is not written in full relies on the imports of the source.  `ImportTable.Justifies` says which imports
a style relies on; the theorem is about the imports *after* pruning.

**Nothing needed is pruned.**  Pruning drops the single-type imports that no decision noted as used.  Some decisions
note nothing: a type of a package declared on demand, a member under a static declaration.  They do not rely on a
single-type import, and those that do have noted it (`Assignment.hasSingleType_neededImports`), so every style is
justified by what is left (`Assignment.Final.short`, `Assignment.Final.last`).

**What a bare name means.**  The resolver does not look whether a simple name has a second meaning in scope.  Two
visible types may share one: then the first to claim it is written bare without any import, and the other is not
written through the simple name at all.
-/

namespace JavaSource

/-- The imports let the name be written in the style, in a source file of the resolver's package. -/
def ImportTable.Justifies (t : ImportTable) (r : Resolver) (n : Name) : Style → Prop
  | .canonical => True
  | .short => ∃ top, n.topLevel? = some top ∧
      (r.isVisible top.package = true ∨ t.hasPackage top.package = true ∨ t.hasSingleType top = true)
  | .last => t.hasSingle n = true ∨ ∃ outer, n.enclosing? = some outer ∧
      (n.isMember = true ∧ outer.isIn t.staticsOnDemand = true ∨
        n.isMember = false ∧ 1 < n.simpleNames.length ∧ outer.isIn t.typesOnDemand = true)

namespace Assignment

variable {r : Resolver} {s : Assignment} {n : Name}

/-! ## Pruning -/

lemma typesOnDemand_neededImports (r : Resolver) (s : Assignment) :
    (s.neededImports r).typesOnDemand = s.imports.typesOnDemand := by
  unfold neededImports
  split <;> rfl

lemma singleStatics_neededImports (r : Resolver) (s : Assignment) :
    (s.neededImports r).singleStatics = s.imports.singleStatics := by
  unfold neededImports
  split <;> rfl

lemma staticsOnDemand_neededImports (r : Resolver) (s : Assignment) :
    (s.neededImports r).staticsOnDemand = s.imports.staticsOnDemand := by
  unfold neededImports
  split <;> rfl

/-- **What is noted as used is not pruned.** -/
lemma hasSingleType_neededImports (h : s.imports.hasSingleType n = true) (hu : n ∈ s.used) :
    (s.neededImports r).hasSingleType n = true := by
  unfold neededImports
  split
  · obtain ⟨m, hm, hcan⟩ := Name.isIn_iff.mp h
    refine Name.isIn_iff.mpr ⟨m, List.mem_filter.mpr ⟨hm, ?_⟩, hcan⟩
    exact Name.isIn_iff.mpr ⟨n, hu, hcan.symm⟩
  · exact h

lemma Final.hasSingleType (hs : s.Final r) (h : n.isIn r.declared.singleTypes = true) :
    s.imports.hasSingleType n = true := by
  apply hasSingleType_mono hs.grown
  rw [(initial_spec r).2]
  exact h

lemma Final.typesOnDemand (hs : s.Final r) :
    (s.neededImports r).typesOnDemand = r.declared.typesOnDemand := by
  rw [typesOnDemand_neededImports, hs.grown.typesOnDemand, (initial_spec r).2]

lemma Final.singleStatics (hs : s.Final r) :
    (s.neededImports r).singleStatics = r.declared.singleStatics := by
  rw [singleStatics_neededImports, hs.grown.singleStatics, (initial_spec r).2]

lemma Final.staticsOnDemand (hs : s.Final r) :
    (s.neededImports r).staticsOnDemand = r.declared.staticsOnDemand := by
  rw [staticsOnDemand_neededImports, hs.grown.staticsOnDemand, (initial_spec r).2]

/-! ## Each style is justified -/

/-- What keeps a type in scope during the pass does so after pruning. -/
lemma Final.scope {top : Name} (hs : s.Final r) (h : r.declared.hasPackage top.package = true ∨
      top ∈ s.used ∧ (r.isVisible top.package = true ∨ s.imports.hasSingleType top = true)) :
    r.isVisible top.package = true ∨ (s.neededImports r).hasPackage top.package = true ∨
      (s.neededImports r).hasSingleType top = true := by
  rcases h with hpackage | ⟨hu, hvisible | himport⟩
  · right; left
    rw [ImportTable.hasPackage, hs.typesOnDemand]
    exact hpackage
  · exact Or.inl hvisible
  · exact Or.inr (Or.inr (hasSingleType_neededImports himport hu))

/-- A type without its package: its top-level type is in scope, whatever has been declared. -/
lemma Final.scope_of_type {top : Name} (hs : s.Final r) (h : (n, .short) ∈ s.styles) (hmember : n.isMember = false)
    (htop : n.topLevel? = some top) :
    r.isVisible top.package = true ∨ (s.neededImports r).hasPackage top.package = true ∨
      (s.neededImports r).hasSingleType top = true := by
  cases hs.coherent.settled h with
  | @short top' hp hm ht hsupport hold =>
      rw [htop, Option.some.injEq] at ht
      subst ht
      refine hs.scope (hsupport.imp (fun hstyle => ?_) And.right)
      rw [Name.package_topLevel htop]
      exact ImportTable.hasPackage_of_styleFor hstyle
  | member hm =>
      rw [hm] at hmember
      exact Bool.noConfusion hmember

/-- Any name without its package, a member perhaps.  This takes declarations that were read from text: none of them has a
type in the place of a static member. -/
lemma Final.short (hs : s.Final r) (hr : r.declared.Parsed) (h : (n, .short) ∈ s.styles) :
    ∃ top, n.topLevel? = some top ∧
      (r.isVisible top.package = true ∨ (s.neededImports r).hasPackage top.package = true ∨
        (s.neededImports r).hasSingleType top = true) := by
  have hn := hs.coherent.conventional h
  obtain ⟨top, ht, hstands⟩ := hs.coherent.stands_of_short hn (hs.coherent.settled h)
  refine ⟨top, ht, hs.scope (hstands.support.imp id fun ⟨hu, hscope⟩ => ⟨hu, ?_⟩)⟩
  rcases hscope with hvisible | himport | hsingle
  · exact Or.inl hvisible
  · exact Or.inr himport
  · rcases Bool.or_eq_true_iff.mp hsingle with htype | hstatic
    · exact Or.inr (hs.hasSingleType htype)
    · have := hr.isIn_singleStatics_eq_false (hn.topLevel ht) (hn.isTopLevel_topLevel ht)
      rw [this] at hstatic
      exact Bool.noConfusion hstatic

/-- A last identifier alone: the name is declared by itself or through the name around it. -/
lemma Final.last (hs : s.Final r) (h : (n, .last) ∈ s.styles) :
    (s.neededImports r).Justifies r n .last := by
  have single : n.isIn r.declared.singleStatics = true → (s.neededImports r).hasSingle n = true := by
    intro hstatic
    rw [ImportTable.hasSingle, hs.singleStatics, hstatic, Bool.or_true]
  cases hs.coherent.settled h with
  | last hp hm hstyle hold hu =>
      rcases ImportTable.allows_of_styleFor_eq_last hm hstyle with hsingle | ⟨hnested, outer, he, hin⟩
      · left
        rcases Bool.or_eq_true_iff.mp hsingle with htype | hstatic
        · exact Bool.or_eq_true_iff.mpr (Or.inl (hasSingleType_neededImports (hs.hasSingleType htype) hu))
        · exact single hstatic
      · exact Or.inr ⟨outer, he, Or.inr ⟨hm, hnested, by rw [hs.typesOnDemand]; exact hin⟩⟩
  | static hm hstatic hold =>
      rcases ImportTable.of_hasStatic hstatic with hsingle | ⟨outer, he, hin⟩
      · exact Or.inl (single hsingle)
      · exact Or.inr ⟨outer, he, Or.inl ⟨hm, by rw [hs.staticsOnDemand]; exact hin⟩⟩
  | member _ _ _ _ hstyle => exact absurd hstyle.symm (Style.ofMember_ne_last _ _)

end Assignment

namespace Resolver

/-- **Every shortening is justified by the returned imports**, pruned or not. -/
theorem styles_justified (r : Resolver) (hr : r.declared.Parsed) (names : List Name)
    (hnames : ∀ n ∈ names, n.Parsed) {n : Name} {style : Style} (h : (n, style) ∈ (r.assign names).styles) :
    (r.assign names).imports.Justifies r n style := by
  have hfinal := r.run_final hnames
  cases style with
  | canonical => trivial
  | last => exact hfinal.last h
  | short => exact hfinal.short hr h

/-- A nested type keeps the import of its top-level type, while an unused one is dropped. -/
theorem nested_type_justified :
    let entry : Name := ⟨["java", "util", "Map", "Entry"], 2, false⟩
    let map : Name := ⟨["java", "util", "Map"], 2, false⟩
    let unused : Name := ⟨["c", "Unused"], 1, false⟩
    let r : Resolver := { package := "com.example", declared := { singleTypes := [map, unused] } }
    (entry, .short) ∈ (r.assign [entry]).styles ∧ (r.assign [entry]).imports.singleTypes = [map] ∧
      (r.assign [entry]).imports.Justifies r entry .short := by
  intro entry map unused r
  have hdeclared : r.declared.Parsed :=
    ImportTable.Parsed.ofDeclarations (t := {}) (by simp [ImportTable.Parsed, ImportTable.entries])
      (rfl : ImportTable.ofDeclarations ["import java.util.Map;", "c.Unused"] {} = .ok r.declared)
  have hnames : ∀ n ∈ [entry], n.Parsed := List.forall_mem_singleton.mpr ⟨"java.util.Map.Entry", rfl⟩
  have hentry : (entry, .short) ∈ (r.assign [entry]).styles := by
    rw [assign_of_singleStatics_nil _ _ rfl]
    decide +kernel
  have himports : (r.assign [entry]).imports.singleTypes = [map] := by
    rw [assign_of_singleStatics_nil _ _ rfl]
    decide +kernel
  exact ⟨hentry, himports, styles_justified r hdeclared _ hnames hentry⟩

/-! ## What a bare name means -/

/-- Types of the package can be referred to without an import of their own. -/
def inScope (r : Resolver) (package : Text) : Bool := r.isVisible package || r.declared.hasPackage package

/-- **A bare name that rests on visibility alone is written for one type only.**  If a name is written without package and
its top-level type is not imported by itself, then the package is in scope, unless the name is a member; the type of a
member may have been declared in the place of a static member.  And every other top-level type of the same simple name is
kept out of the text under that simple name: what belongs to it is written in full, or by a last identifier of its
own. -/
theorem bare_name_exclusive (r : Resolver) (names : List Name) (hnames : ∀ n ∈ names, n.Parsed) {n top : Name}
    (hn : (n, .short) ∈ (r.assign names).styles) (htop : n.topLevel? = some top)
    (hsingle : (r.assign names).imports.hasSingleType top = false) :
    (n.isMember = false → r.inScope top.package = true) ∧
      ∀ m ∈ names, ∀ other, m.topLevel? = some other → other.canonical ≠ top.canonical → other.last = top.last →
        (r.assign names).get? m = some .canonical ∨
          (r.assign names).get? m = some .last ∧ m.last ≠ top.last := by
  have hfinal := r.run_final hnames
  constructor
  · intro hmember
    rcases hfinal.scope_of_type hn hmember htop with hvisible | hpackage | htype
    · exact Bool.or_eq_true_iff.mpr (Or.inl hvisible)
    · rw [ImportTable.hasPackage, hfinal.typesOnDemand] at hpackage
      exact Bool.or_eq_true_iff.mpr (Or.inr hpackage)
    · rw [show (r.assign names).imports = (r.run names).neededImports r from rfl, htype] at hsingle
      exact Bool.noConfusion hsingle
  · intro m hm other hother hne hlast
    have hnconv := hfinal.coherent.conventional hn
    obtain ⟨top', htop', hstands⟩ := hfinal.coherent.stands_of_short hnconv (hfinal.coherent.settled hn)
    rw [htop, Option.some.injEq] at htop'
    subst htop'
    obtain ⟨style, hstyle⟩ := r.run_decides hnames hm
    have hget : (r.assign names).get? m = some style := hstyle
    rcases hfinal.coherent.rival (hnconv.topLevel htop) (hnconv.isTopLevel_topLevel htop) hstands.holds
      (hnames m hm).conventional hother hne hlast hstyle with rfl | ⟨rfl, hdiffer⟩
    · exact Or.inl hget
    · exact Or.inr ⟨hget, hdiffer⟩

/-- `java.util.List` under a package declared on demand, and the type of the same simple name beside the source. -/
theorem bare_name_exclusive_list :
    let util : Name := ⟨["java", "util", "List"], 2, false⟩
    let own : Name := ⟨["com", "example", "List"], 2, false⟩
    let r : Resolver :=
      { package := "com.example", declared := { typesOnDemand := [⟨["java", "util"], 2, false⟩] } }
    (util, .short) ∈ (r.assign [util, own]).styles ∧ (r.assign [util, own]).imports.hasSingleType util = false ∧
      r.inScope util.package = true ∧ r.inScope own.package = true ∧
      ((r.assign [util, own]).get? own = some .canonical ∨
        (r.assign [util, own]).get? own = some .last ∧ own.last ≠ util.last) := by
  intro util own r
  have hnames : ∀ n ∈ [util, own], n.Parsed :=
    List.forall_mem_cons.mpr ⟨⟨"java.util.List", rfl⟩, List.forall_mem_singleton.mpr ⟨"com.example.List", rfl⟩⟩
  have hutil : (util, .short) ∈ (r.assign [util, own]).styles := by
    rw [assign_of_singleStatics_nil _ _ rfl]
    decide +kernel
  have hsingle : (r.assign [util, own]).imports.hasSingleType util = false := by
    rw [assign_of_singleStatics_nil _ _ rfl]
    decide +kernel
  have hexclusive := bare_name_exclusive r _ hnames hutil rfl hsingle
  exact ⟨hutil, hsingle, hexclusive.1 rfl, rfl, hexclusive.2 own (by simp) own rfl (by decide) rfl⟩

/-- **A bare name may have a second meaning in scope.**  `java.lang.String` is written `String` in a package that has
a `String` of its own, though both are visible and neither is imported. -/
theorem simple_name_shared_in_scope :
    ¬ ∀ (r : Resolver) (names : List Name), (∀ n ∈ names, n.Parsed) →
      ∀ n top : Name, (n, .short) ∈ (r.assign names).styles → n.isMember = false → n.topLevel? = some top →
        (r.assign names).imports.hasSingleType top = false →
        ∀ m ∈ names, ∀ other, m.topLevel? = some other → other.canonical ≠ top.canonical →
          other.last = top.last → r.inScope other.package = false := by
  intro h
  let lang : Name := ⟨["java", "lang", "String"], 2, false⟩
  let own : Name := ⟨["com", "example", "String"], 2, false⟩
  let r : Resolver := { package := "com.example" }
  have hnames : ∀ n ∈ [lang, own], n.Parsed :=
    List.forall_mem_cons.mpr
      ⟨⟨"java.lang.String", rfl⟩, List.forall_mem_singleton.mpr ⟨"com.example.String", rfl⟩⟩
  have hlang : (lang, .short) ∈ (r.assign [lang, own]).styles := by
    rw [assign_of_singleStatics_nil _ _ rfl]
    decide +kernel
  have hsingle : (r.assign [lang, own]).imports.hasSingleType lang = false := by
    rw [assign_of_singleStatics_nil _ _ rfl]
    decide +kernel
  have hscope := h r [lang, own] hnames lang lang hlang rfl rfl hsingle own (by simp) own rfl (by decide) rfl
  exact absurd hscope (by decide)

end Resolver

end JavaSource
