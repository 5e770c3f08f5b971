import JavaSource.Proofs.Import.Rerun

/-!
# A longer list of names

What the pass decides about the names at the beginning of a list does not depend on the names behind them.

**Decisions and imports.**  The state only grows (`Assignment.grows_foldl_decide`), and this needs no assumption about
the names or the declarations.  So the decisions for a list are the first ones for every longer list.  An import is
dropped after the pass, by what was used in it; more names use more, so none is dropped because of them
(`Assignment.Grows.singleTypes_neededImports`).

**Names met before.**  A name that is decided is looked up, and nothing else happens (`Assignment.decide_of_known`).
Names that were all met before therefore change nothing, even if they are divided differently.
-/

namespace JavaSource

namespace Assignment

variable {r : Resolver} {s s' : Assignment} {n : Name}

/-- **More names do not drop an import.** -/
lemma Grows.singleTypes_neededImports (g : s.Grows s') :
    (s.neededImports r).singleTypes.Sublist (s'.neededImports r).singleTypes := by
  have hkeep : ∀ t : Name, (!r.prune || t.isIn s.used) = true → (!r.prune || t.isIn s'.used) = true := by
    intro t ht
    rcases Bool.or_eq_true_iff.mp ht with hprune | hused
    · exact Bool.or_eq_true_iff.mpr (Or.inl hprune)
    · obtain ⟨u, hu, hcan⟩ := Name.isIn_iff.mp hused
      exact Bool.or_eq_true_iff.mpr (Or.inr (Name.isIn_iff.mpr ⟨u, g.used hu, hcan⟩))
  rw [Assignment.singleTypes_neededImports, Assignment.singleTypes_neededImports]
  exact (List.monotone_filter_right _ hkeep).trans (g.singleTypes.sublist.filter _)

/-- **A name that is decided is only looked up.** -/
lemma decide_of_known {style : Style} (h : s.styleOf? n = some style) : s.decide r n = (style, s) := by
  unfold decide
  split
  · simp only [decidePlain, h]
  · simp only [h]

lemma foldl_decide_of_known (r : Resolver) {names : List Name} (h : ∀ n ∈ names, (s.styleOf? n).isSome = true) :
    names.foldl (fun s n => (s.decide r n).2) s = s := by
  induction names with
  | nil => rfl
  | cons n names ih =>
      obtain ⟨hn, hnames⟩ := List.forall_mem_cons.mp h
      obtain ⟨style, hstyle⟩ := Option.isSome_iff_exists.mp hn
      rw [List.foldl_cons, decide_of_known hstyle]
      exact ih hnames

/-- The look-up does not see how a name is divided. -/
lemma styleOf?_congr (s : Assignment) {m : Name} (h : m.canonical = n.canonical) : s.styleOf? m = s.styleOf? n := by
  simp only [styleOf?, Style.decided?, Name.same, h]

end Assignment

namespace Resolver

lemma run_append (r : Resolver) (names more : List Name) :
    r.run (names ++ more) = more.foldl (fun s n => (s.decide r n).2) (r.run names) :=
  List.foldl_append

/-- **The names behind a list do not matter for it.**  The decisions for a list are the first ones for every longer
list, its imports are among those of the longer list, in the same order, and names that the list contains already
change nothing. -/
theorem assign_online (r : Resolver) (names more : List Name) :
    (r.assign names).styles <+: (r.assign (names ++ more)).styles ∧
      (r.assign names).imports.singleTypes.Sublist (r.assign (names ++ more)).imports.singleTypes ∧
      ((∀ n ∈ more, n.isIn names = true) → r.assign (names ++ more) = r.assign names) := by
  have g : (r.run names).Grows (r.run (names ++ more)) := by
    rw [run_append]
    exact Assignment.grows_foldl_decide r more _
  refine ⟨g.styles, g.singleTypes_neededImports, fun hmore => ?_⟩
  have hknown : ∀ n ∈ more, ((r.run names).styleOf? n).isSome = true := by
    intro n hn
    obtain ⟨m, hm, hcan⟩ := Name.isIn_iff.mp (hmore n hn)
    rw [← (r.run names).styleOf?_congr hcan]
    exact r.isSome_get?_assign hm
  have hrun : r.run (names ++ more) = r.run names := by
    rw [run_append]
    exact Assignment.foldl_decide_of_known r hknown
  simp only [assign, hrun]

/-- A member whose type takes the simple name, a rival that comes too late, and a declared type that is kept.  Then the
same texts again, the type as a package and the member as a nested type. -/
theorem assign_online_divided :
    let foo : Name := ⟨["a", "Foo"], 1, false⟩
    let bar : Name := ⟨["a", "Foo", "bar"], 1, true⟩
    let rival : Name := ⟨["b", "Foo"], 1, false⟩
    let map : Name := ⟨["java", "util", "Map"], 2, false⟩
    let r : Resolver :=
      { package := "com.example", declared := { singleTypes := [map, ⟨["c", "Unused"], 1, false⟩] } }
    let names := [bar, rival, map, foo]
    let more : List Name := [⟨["a", "Foo"], 2, false⟩, ⟨["a", "Foo", "bar"], 1, false⟩, rival]
    (∀ n ∈ more, n.isIn names = true) ∧ r.assign (names ++ more) = r.assign names ∧
      (r.assign names).styles = [(foo, .short), (bar, .short), (rival, .canonical), (map, .last)] ∧
      (r.assign names).imports.singleTypes = [map, foo] := by
  intro foo bar rival map r names more
  have hmore : ∀ n ∈ more, n.isIn names = true := by decide
  refine ⟨hmore, (assign_online r names more).2.2 hmore, ?_, ?_⟩
  · rw [assign_of_singleStatics_nil _ _ rfl]
    decide +kernel
  · rw [assign_of_singleStatics_nil _ _ rfl]
    decide +kernel

end Resolver

end JavaSource
