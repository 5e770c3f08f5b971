import JavaSource.Proofs.Import.Pass

/-!
# Spellings that keep names apart

The decisions of a resolver are meant to keep different names apart in the text.

**Shortened against shortened.**  Two different names that are both shortened are never written alike.  Whatever path
led to a decision, the first identifier that is written is a simple name that the name's *owner* holds, and what
follows it is what the name has beyond its owner (`Assignment.Coherent.owner`).  So the spelling determines the owner,
and with it the name.

**Full against shortened.**  A name that loses its simple name is written in full, and does not claim what is written
then.  For a name of the unnamed package that is the very text it was refused: `a.Foo` takes the simple name, and
`Foo` is written the same.  The second theorem says exactly when this happens; beside the unnamed package there is
only a package of one identifier, against a name that is written by its last identifier.
-/

namespace JavaSource

namespace Resolver

/-- **Shortening is free of collisions.**  Two names with different canonical texts that are both shortened have
different spellings, whatever is declared and in whatever order the names occur. -/
theorem shortened_spellings_differ (r : Resolver) (names : List Name) (hnames : ∀ n ∈ names, n.Parsed)
    {m n : Name} {s t : Style} (hm : (m, s) ∈ (r.assign names).styles) (hn : (n, t) ∈ (r.assign names).styles)
    (hs : s.isShortened = true) (ht : t.isShortened = true) (hne : m.canonical ≠ n.canonical) :
    s.apply m ≠ t.apply n := by
  have hcoh := (r.run_final hnames).coherent
  have hmconv := hcoh.conventional hm
  have hnconv := hcoh.conventional hn
  intro hspell
  rw [Style.apply_eq_apply_iff hmconv.toWellFormed hnconv.toWellFormed] at hspell
  obtain ⟨a, x, xs, ha, holda, hpartsa, hidsa⟩ := hcoh.owner hm hs
  obtain ⟨b, y, ys, hb, holdb, hpartsb, hidsb⟩ := hcoh.owner hn ht
  rw [hpartsa, hpartsb, List.cons.injEq] at hspell
  obtain ⟨rfl, rfl⟩ := hspell
  have howner := ha.identifiers_eq hb.toWellFormed (holda.canonical_eq holdb)
  apply hne
  rw [Name.canonical, Name.canonical, hidsa, hidsb, howner]

/-- A nested type under its own declaration and one of the same name under its top-level type. -/
theorem nested_spellings_differ :
    let entry : Name := ⟨["java", "util", "Map", "Entry"], 2, false⟩
    let other : Name := ⟨["a", "Map", "Entry"], 1, false⟩
    let r : Resolver := { package := "com.example", declared := { singleTypes := [entry] } }
    (entry, .last) ∈ (r.assign [entry, other]).styles ∧ (other, .short) ∈ (r.assign [entry, other]).styles ∧
      Style.last.apply entry ≠ Style.short.apply other := by
  intro entry other r
  have hstyles : (r.assign [entry, other]).styles = [(entry, .last), (other, .short)] := by
    rw [assign_of_singleStatics_nil _ _ rfl]
    decide +kernel
  have hnames : ∀ n ∈ [entry, other], n.Parsed :=
    List.forall_mem_cons.mpr ⟨⟨"java.util.Map.Entry", rfl⟩, List.forall_mem_singleton.mpr ⟨"a.Map.Entry", rfl⟩⟩
  have hentry : (entry, .last) ∈ (r.assign [entry, other]).styles := by simp [hstyles]
  have hother : (other, .short) ∈ (r.assign [entry, other]).styles := by simp [hstyles]
  exact ⟨hentry, hother, shortened_spellings_differ r _ hnames hentry hother rfl rfl (by decide)⟩

/-- **When a name in full is written like a shortened one.**  Exactly if it is of the unnamed package and its identifiers
are what the other one has after its package, or if it is the single identifier that the other one ends in. -/
theorem canonical_spelling_eq_iff (r : Resolver) (names : List Name) (hnames : ∀ n ∈ names, n.Parsed)
    {m n : Name} {style : Style} (hm : (m, .canonical) ∈ (r.assign names).styles)
    (hn : (n, style) ∈ (r.assign names).styles) (hshort : style.isShortened = true) :
    Style.canonical.apply m = style.apply n ↔
      style = .short ∧ m.level = 0 ∧ m.identifiers = n.simpleNames ∨ style = .last ∧ m.identifiers = [n.last] := by
  have hcoh := (r.run_final hnames).coherent
  have hmconv := hcoh.conventional hm
  have hnconv := hcoh.conventional hn
  have hp := (hcoh.settled hn).not_isPackage hnconv hshort
  have hparts : Style.canonical.parts m = m.identifiers := by
    simp [Style.parts]
  rw [Style.apply_eq_apply_iff hmconv.toWellFormed hnconv.toWellFormed, hparts]
  cases style with
  | canonical => simp [Style.isShortened] at hshort
  | last => simp [Style.parts, hp]
  | short =>
      have hlevel : m.identifiers = n.simpleNames → m.level = 0 := by
        intro heq
        rw [hmconv.level_eq, heq]
        exact hnconv.findIdx_simpleNames hp
      simpa [Style.parts, hp] using hlevel

/-- `Foo` of the unnamed package, after `a.Foo` took the simple name: both are written `Foo`. -/
theorem unnamed_type_spelled_like_named :
    let named : Name := ⟨["a", "Foo"], 1, false⟩
    let unnamed : Name := ⟨["Foo"], 0, false⟩
    let r : Resolver := { package := "com.example" }
    (named, .short) ∈ (r.assign [named, unnamed]).styles ∧
      (unnamed, .canonical) ∈ (r.assign [named, unnamed]).styles ∧
      Style.canonical.apply unnamed = Style.short.apply named := by
  intro named unnamed r
  have hstyles : (r.assign [named, unnamed]).styles = [(named, .short), (unnamed, .canonical)] := by
    rw [assign_of_singleStatics_nil _ _ rfl]
    decide +kernel
  have hnames : ∀ n ∈ [named, unnamed], n.Parsed :=
    List.forall_mem_cons.mpr ⟨⟨"a.Foo", rfl⟩, List.forall_mem_singleton.mpr ⟨"Foo", rfl⟩⟩
  have hnamed : (named, .short) ∈ (r.assign [named, unnamed]).styles := by simp [hstyles]
  have hunnamed : (unnamed, .canonical) ∈ (r.assign [named, unnamed]).styles := by simp [hstyles]
  exact ⟨hnamed, hunnamed,
    (canonical_spelling_eq_iff r _ hnames hunnamed hnamed rfl).mpr (Or.inl ⟨rfl, rfl, rfl⟩)⟩

end Resolver

end JavaSource
