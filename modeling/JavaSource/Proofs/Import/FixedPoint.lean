import JavaSource.Proofs.Import.Rerun
import JavaSource.Proofs.Listing.Simulation

/-!
# Resolving again

A resolved document may be resolved again under the imports that were chosen for it.  If no declaration can be
dropped, because pruning is off or no single type is declared, then nothing changes: the imports are the same, and so is
the text.

The second run of the pass follows the first one (`Resolver.run_after_follows`), so every name is spelled alike, and
the text depends on the spelling of names only (`Resolver.text_resolve_eq`).
-/

namespace JavaSource

namespace Resolver

variable {r : Resolver} {t : ImportTable} {n : Name}

/-- Where no declared type is dropped, dropping does not matter. -/
lemma steady_of_kept (h : ∀ m, r.declared.hasSingleType m = true → t.hasSingleType m = true) (n : Name) :
    r.Steady t n := by
  have hkeeps : ∀ x, r.Keeps t x := by
    intro x m hm
    exact h m (Name.isIn_iff.mpr ⟨m, List.mem_of_find?_eq_some hm, rfl⟩)
  have htype : ∀ m, r.SteadyType t m := fun m => ⟨fun _ => hkeeps _, fun _ _ _ => hkeeps _, fun _ => h m⟩
  exact ⟨fun _ _ => htype n, fun _ => hkeeps _, fun _ outer _ => htype outer⟩

/-- No declaration is dropped without pruning, or where there is none to drop. -/
lemma hasSingleType_assign {names : List Name} (hnames : ∀ n ∈ names, n.Parsed)
    (hkept : r.prune = false ∨ r.declared.singleTypes = []) (h : r.declared.hasSingleType n = true) :
    (r.assign names).imports.hasSingleType n = true := by
  rcases hkept with hprune | hnil
  · have himports : (r.assign names).imports = (r.run names).imports := by
      simp [assign, Assignment.neededImports, hprune]
    rw [himports]
    exact (r.run_final hnames).hasSingleType h
  · simp [ImportTable.hasSingleType, hnil, Name.isIn] at h

/-- A fragment is resolved by deciding its names. -/
lemma resolve_eq (r : Resolver) (document : Fragment) : r.resolve document =
    { text := (document.emit ((Listing.withIndent r.indent).withPolicy (r.assign document.names).policy)).text
      decisions := r.assign document.names } := by
  have hnames : (document.emit (Listing.withIndent r.indent)).names = document.names := by
    rw [Fragment.names_emit]
    exact List.nil_append _
  simp only [resolve, resolveWith, hnames]

/-- The text of a resolved fragment depends on the spelling of its names only. -/
lemma text_resolve_eq {r r' : Resolver} {document : Fragment} (hindent : r'.indent = r.indent)
    (h : ∀ n ∈ document.names,
      ((r'.assign document.names).policy n).apply n = ((r.assign document.names).policy n).apply n) :
    (r'.resolve document).text = (r.resolve document).text := by
  have htext := congrArg Listing.text (document.emit_withPolicy
    ((Listing.withIndent r.indent).withPolicy (r.assign document.names).policy) (r'.assign document.names).policy h)
  rw [resolve_eq, resolve_eq, hindent]
  exact htext

/-- **Resolving again changes nothing, if no declaration can be dropped.**  The imports of the first resolution are
declared, and the document is resolved again: it has the same imports and the same text. -/
theorem resolve_fixed_point (r : Resolver) (hr : r.declared.Parsed)
    (hkept : r.prune = false ∨ r.declared.singleTypes = []) (document : Fragment)
    (hdocument : ∀ n ∈ document.names, n.Parsed) :
    let first := r.resolve document
    let second := Resolver.resolve { r with declared := first.decisions.imports } document
    second.decisions.imports = first.decisions.imports ∧ second.text = first.text := by
  intro first second
  have hsteady : ∀ n ∈ document.names, r.Steady (r.assign document.names).imports n :=
    fun n _ => steady_of_kept (fun m => hasSingleType_assign hdocument hkept) n
  have hfirst : first.decisions = r.assign document.names := by
    simp only [first, resolve_eq]
  have hsecond : second = (r.after (r.run document.names)).resolve document := by
    simp only [second, hfirst]
    rfl
  rw [hsecond]
  constructor
  · rw [hfirst, resolve_eq]
    exact imports_assign_after hr hdocument hsteady
  · refine text_resolve_eq rfl fun n hn => ?_
    obtain ⟨style, style', h, h', ha⟩ := get?_assign_after hr hdocument hsteady hn
    simp only [Decisions.policy, h, h', Option.getD_some]
    exact ha.apply_eq

/-- A document with a type of each kind: imported, refused, nested in a type declared on demand, visible, and a member
of an imported type. -/
theorem resolve_fixed_point_mixed :
    let names : List Name := [⟨["java", "util", "List"], 2, false⟩, ⟨["java", "awt", "List"], 2, false⟩,
      ⟨["java", "util", "Map", "Entry"], 2, false⟩, ⟨["java", "lang", "String"], 2, false⟩,
      ⟨["java", "util", "Collections", "emptyList"], 2, true⟩]
    let document : Fragment := .block "class A \x7b" (names.map fun n => .sequence [.name n, .newline]) (some "\x7d")
    let r : Resolver :=
      { package := "com.example", declared := { typesOnDemand := [⟨["java", "util", "Map"], 2, false⟩] } }
    let first := r.resolve document
    let second := Resolver.resolve { r with declared := first.decisions.imports } document
    (r.prune = false ∨ r.declared.singleTypes = []) ∧ document.names = names ∧
      first.decisions.imports.singleTypes =
        [⟨["java", "util", "List"], 2, false⟩, ⟨["java", "util", "Collections"], 2, false⟩] ∧
      second.decisions.imports = first.decisions.imports ∧ second.text = first.text := by
  intro names document r first second
  have hdeclared : r.declared.Parsed :=
    ImportTable.Parsed.empty.ofDeclarations
      (rfl : ImportTable.ofDeclarations ["java.util.Map.*"] {} = .ok r.declared)
  have hparsed : ∀ n ∈ document.names, n.Parsed := by
    have hall : ∀ n ∈ names, n.Parsed :=
      List.forall_mem_cons.mpr ⟨⟨"java.util.List", rfl⟩, List.forall_mem_cons.mpr ⟨⟨"java.awt.List", rfl⟩,
        List.forall_mem_cons.mpr ⟨⟨"java.util.Map.Entry", rfl⟩, List.forall_mem_cons.mpr ⟨⟨"java.lang.String", rfl⟩,
          List.forall_mem_singleton.mpr ⟨"java.util.Collections.emptyList", rfl⟩⟩⟩⟩⟩
    exact hall
  have himports : first.decisions.imports.singleTypes =
      [⟨["java", "util", "List"], 2, false⟩, ⟨["java", "util", "Collections"], 2, false⟩] := by
    simp only [first, resolve_eq]
    rw [assign_of_singleStatics_nil _ _ rfl]
    decide +kernel
  exact ⟨Or.inr rfl, rfl, himports, resolve_fixed_point r hdeclared (Or.inr rfl) document hparsed⟩

end Resolver

end JavaSource
