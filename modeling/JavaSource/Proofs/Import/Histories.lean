import JavaSource.Proofs.Import.ReadBack

/-!
# Tables and their histories

A table comes about by adding, declaring and merging, and its sets stand in the order in which this happened.  **What is
written of it does not show the order**: its lines depend on the four sets of targets alone.

**One order.**  `Import.Precedes` says which of two declarations is written first, down to a type and all that is declared
in it.  It is strict, and it orders the declarations of a table without repetitions (`Distinct.pairwise_declarations`):
where sorting decides nothing, stability keeps the order of the sets.

**One list.**  A list that is strictly ordered is determined by its members.  So two tables that declare the same targets
are written alike (`Distinct.written_eq`), however each of the names is divided.
-/

namespace JavaSource

/-! ## The order of what is written -/

namespace Import

/-- What is written of a declaration: its kind, and the text of its target. -/
def written (i : Import) : ImportKind × Text := (i.kind, i.target.canonical)

/-- The first declaration is written before the second one. -/
inductive Precedes : ImportKind × Text → ImportKind × Text → Prop
  /-- Static declarations come last. -/
  | group {k l : ImportKind} {s t : Text} (hk : k.isStatic = false) (hl : l.isStatic = true) : Precedes (k, s) (l, t)
  /-- Within each group the target decides. -/
  | target {k l : ImportKind} {s t : Text} (hgroup : k.isStatic = l.isStatic) (hlt : s < t) : Precedes (k, s) (l, t)
  /-- A type comes before all types in it. -/
  | types (t : Text) : Precedes (.singleType, t) (.typesOnDemand, t)
  /-- A member comes before all members in it. -/
  | statics (t : Text) : Precedes (.singleStatic, t) (.staticsOnDemand, t)

/-- The group decides first, the target second and the kind last. -/
lemma precedes_iff {v w : ImportKind × Text} : Precedes v w ↔
    v.1.isStatic = false ∧ w.1.isStatic = true ∨
      v.1.isStatic = w.1.isStatic ∧ (v.2 < w.2 ∨ v.2 = w.2 ∧ v.1.rank < w.1.rank) := by
  obtain ⟨k, s⟩ := v
  obtain ⟨l, t⟩ := w
  constructor
  · intro h
    cases h with
    | group hk hl => exact Or.inl ⟨hk, hl⟩
    | target hgroup hlt => exact Or.inr ⟨hgroup, Or.inl hlt⟩
    | types => exact Or.inr ⟨rfl, Or.inr ⟨rfl, Nat.lt_succ_self 0⟩⟩
    | statics => exact Or.inr ⟨rfl, Or.inr ⟨rfl, Nat.lt_succ_self 2⟩⟩
  · rintro (⟨hk, hl⟩ | ⟨hgroup, hlt | ⟨rfl, hrank⟩⟩)
    · exact .group hk hl
    · exact .target hgroup hlt
    · cases k <;> cases l <;> simp [ImportKind.isStatic, ImportKind.rank] at hgroup hrank
      · exact .types s
      · exact .statics s

instance : Std.Asymm Precedes where
  asymm v w hvw hwv := by
    rw [precedes_iff] at hvw hwv
    rcases hvw with ⟨hv, hw⟩ | ⟨hgroup, hlt | ⟨htarget, hrank⟩⟩
    · simp [hv, hw] at hwv
    · have hge : ¬ w.2 < v.2 := List.lt_asymm hlt
      have hne : w.2 ≠ v.2 := fun htarget => List.lt_irrefl _ (htarget ▸ hlt)
      simp [hgroup, hge, hne] at hwv
    · have hback : w.1.rank < v.1.rank := by simpa [hgroup, ← htarget, List.lt_irrefl] using hwv
      omega

end Import

namespace ImportTable

variable {t t' other : ImportTable} {kind : ImportKind} {target : Text}

/-! ## Tables without repetitions -/

/-- The entries stand in the order of their kinds, and none of them stands twice. -/
lemma Distinct.pairwise_entries (h : t.Distinct) : t.entries.Pairwise fun i j =>
    i.kind.rank < j.kind.rank ∨ i.kind = j.kind ∧ i.target.canonical ≠ j.target.canonical := by
  have own : ∀ kind, ((t.targets kind).map (Import.mk kind)).Pairwise fun i j =>
      i.kind.rank < j.kind.rank ∨ i.kind = j.kind ∧ i.target.canonical ≠ j.target.canonical := by
    intro kind
    rw [List.pairwise_map]
    exact (h kind).imp fun hne => Or.inr ⟨rfl, hne⟩
  simp only [entries, List.pairwise_append, List.mem_append, List.mem_map]
  refine ⟨⟨⟨own .singleType, own .typesOnDemand, ?_⟩, own .singleStatic, ?_⟩, own .staticsOnDemand, ?_⟩
  · rintro _ ⟨m, -, rfl⟩ _ ⟨n, -, rfl⟩
    simp [ImportKind.rank]
  · rintro _ (⟨m, -, rfl⟩ | ⟨m, -, rfl⟩) _ ⟨n, -, rfl⟩ <;> simp [ImportKind.rank]
  · rintro _ ((⟨m, -, rfl⟩ | ⟨m, -, rfl⟩) | ⟨m, -, rfl⟩) _ ⟨n, -, rfl⟩ <;> simp [ImportKind.rank]

/-- **Declarations are written in order**, one strictly before the other. -/
lemma Distinct.pairwise_declarations (h : t.Distinct) :
    (t.declarations.map Import.written).Pairwise Import.Precedes := by
  have hsorted : t.declarations.Pairwise fun i j => comesBefore i j = true :=
    List.pairwise_mergeSort comesBefore_trans comesBefore_total t.entries
  rw [List.pairwise_map, List.pairwise_iff_forall_sublist]
  intro i j hij
  rw [Import.precedes_iff]
  rcases (comesBefore_iff i j).mp (hsorted.forall_sublist hij) with ⟨hgroup, hle⟩ | hlast
  · refine Or.inr ⟨hgroup, ?_⟩
    by_cases htarget : i.target.canonical = j.target.canonical
    · -- the two are tied, so they stand as they do among the entries
      have hentries : [i, j].Sublist t.entries := by
        have hboth : [i, j].filter (tied i) = [i, j] := by simp [tied, hgroup, htarget]
        have hfilter := hij.filter (tied i)
        rw [filter_tied_declarations, hboth] at hfilter
        exact hfilter.trans List.filter_sublist
      rcases h.pairwise_entries.forall_sublist hentries with hrank | ⟨-, hne⟩
      · exact Or.inr ⟨htarget, hrank⟩
      · exact absurd htarget hne
    · exact Or.inl ((List.le_iff_lt_or_eq.mp hle).resolve_right htarget)
  · exact Or.inl hlast

/-! ## What a table declares -/

/-- The text is the target of a declaration of this kind. -/
def Declares (t : ImportTable) (kind : ImportKind) (target : Text) : Prop :=
  target ∈ (t.targets kind).map Name.canonical

lemma mem_map_written {w : ImportKind × Text} : w ∈ t.declarations.map Import.written ↔ t.Declares w.1 w.2 := by
  obtain ⟨kind, target⟩ := w
  simp only [declarations, List.mem_map, List.mem_mergeSort, mem_entries_iff, Declares, Import.written]
  constructor
  · rintro ⟨i, hi, heq⟩
    cases heq
    exact ⟨i.target, hi, rfl⟩
  · rintro ⟨n, hn, rfl⟩
    exact ⟨⟨kind, n⟩, hn, rfl⟩

/-- **The targets decide what is written.** -/
lemma Distinct.written_eq (ht : t.Distinct) (ht' : t'.Distinct)
    (h : ∀ kind target, t.Declares kind target ↔ t'.Declares kind target) :
    t.declarations.map Import.written = t'.declarations.map Import.written := by
  refine ht.pairwise_declarations.eq_of_mem_iff ht'.pairwise_declarations fun w => ?_
  rw [mem_map_written, mem_map_written, h]

/-- A line spells out what is written of its declaration. -/
lemma map_text_eq (h : t.declarations.map Import.written = t'.declarations.map Import.written) :
    t.declarations.map Import.text = t'.declarations.map Import.text := by
  have htext : Import.text = (fun w : ImportKind × Text => w.1.opening ++ w.2 ++ w.1.ending) ∘ Import.written := rfl
  rw [htext, ← List.map_map, h, List.map_map]

/-! ## Adding and merging -/

lemma mem_map_insertInto {n : Name} {names : List Name} :
    target ∈ (n.insertInto names).map Name.canonical ↔ target ∈ names.map Name.canonical ∨ target = n.canonical := by
  unfold Name.insertInto
  split
  · rename_i hin
    obtain ⟨m, hm, hcan⟩ := Name.isIn_iff.mp hin
    have hmem : n.canonical ∈ names.map Name.canonical := hcan ▸ List.mem_map_of_mem hm
    constructor
    · exact Or.inl
    · rintro (h | rfl)
      · exact h
      · exact hmem
  · simp

lemma targets_merge (t other : ImportTable) (kind : ImportKind) :
    (t.merge other).targets kind = (other.targets kind).foldl (fun names n => n.insertInto names) (t.targets kind) := by
  cases kind <;> rfl

lemma declares_merge_iff : (t.merge other).Declares kind target ↔ t.Declares kind target ∨ other.Declares kind target := by
  unfold Declares
  rw [targets_merge]
  generalize t.targets kind = names
  induction other.targets kind generalizing names with
  | nil => simp
  | cons n rest ih => rw [List.foldl_cons, ih, mem_map_insertInto, List.map_cons, List.mem_cons, or_assoc]

lemma Distinct.merge (h : t.Distinct) (other : ImportTable) : (t.merge other).Distinct := by
  intro kind
  rw [targets_merge]
  have hkind := h kind
  generalize t.targets kind = names at hkind
  induction other.targets kind generalizing names with
  | nil => exact hkind
  | cons n rest ih => exact ih _ (pairwise_insertInto hkind)

/-! ## Histories -/

/-- The table comes about by adding, declaring and merging.  A declaration that cannot be read leaves the table as it was,
so it does not appear. -/
inductive Built : ImportTable → Prop
  | empty : Built {}
  | add {t : ImportTable} (ht : Built t) (i : Import) : Built (t.add i)
  | declare {t t' : ImportTable} (ht : Built t) {declaration : Text} (h : t.declare declaration = .ok t') : Built t'
  | merge {t other : ImportTable} (ht : Built t) (hother : Built other) : Built (t.merge other)

lemma exists_of_declare {declaration : Text} (h : t.declare declaration = .ok t') :
    ∃ i, Import.parse declaration = .ok i ∧ t' = t.add i := by
  unfold declare at h
  cases hread : Import.parse declaration with
  | error e => simp [hread, Except.map] at h
  | ok i =>
      simp only [hread, Except.map, Except.ok.injEq] at h
      exact ⟨i, rfl, h.symm⟩

lemma Built.distinct (h : t.Built) : t.Distinct := by
  induction h with
  | empty => exact Distinct.empty
  | add _ i ih => exact ih.add i
  | declare _ h ih =>
      obtain ⟨i, -, rfl⟩ := exists_of_declare h
      exact ih.add i
  | merge _ _ ih _ => exact ih.merge _

/-- **Import output does not depend on the order of declarations.**  Tables with the same four sets of targets are written
in the same lines, and merging two tables either way gives the same lines.  What is written are all entries, each once:
the static ones last, each group ascending by target, and a type or member before all that is declared in it. -/
theorem declarations_independent_of_history :
    (∀ {t t' : ImportTable}, t.Built → t'.Built →
      (∀ kind target, t.Declares kind target ↔ t'.Declares kind target) →
        t.declarations.map Import.text = t'.declarations.map Import.text ∧ t.fragment = t'.fragment) ∧
    (∀ {t : ImportTable}, t.Built →
      t.declarations.Perm t.entries ∧ (t.declarations.map Import.written).Nodup ∧
        (t.declarations.map Import.written).Pairwise Import.Precedes) ∧
    ∀ {t t' : ImportTable}, t.Built → t'.Built →
      (t.merge t').declarations.map Import.text = (t'.merge t).declarations.map Import.text := by
  refine ⟨fun {t t'} ht ht' h => ?_, fun {t} ht => ?_, fun {t t'} ht ht' => ?_⟩
  · have hlines := map_text_eq (ht.distinct.written_eq ht'.distinct h)
    exact ⟨hlines, by rw [fragment_eq, fragment_eq, hlines]⟩
  · have hsorted := ht.distinct.pairwise_declarations
    exact ⟨List.mergeSort_perm _ _, hsorted.nodup, hsorted⟩
  · refine map_text_eq ((ht.merge ht').distinct.written_eq (ht'.merge ht).distinct fun kind target => ?_)
    rw [declares_merge_iff, declares_merge_iff, or_comm]

/-- Two tables with the same targets, in another order and, for `a.b`, of names that are divided differently. -/
theorem declarations_independent_of_history_divided :
    let package : Name := ⟨["a", "b"], 2, false⟩
    let type : Name := ⟨["a", "b"], 1, false⟩
    let t : ImportTable :=
      { singleTypes := [type]
        typesOnDemand := [⟨["java", "io"], 2, false⟩, package]
        staticsOnDemand := [⟨["a", "C"], 1, false⟩] }
    let t' : ImportTable :=
      { singleTypes := [package]
        typesOnDemand := [type, ⟨["java", "io"], 2, false⟩]
        staticsOnDemand := [⟨["a", "C"], 1, false⟩] }
    t.Built ∧ t'.Built ∧ (∀ kind target, t.Declares kind target ↔ t'.Declares kind target) ∧
      t.declarations.map Import.text = t'.declarations.map Import.text ∧
      (t.merge t').declarations.map Import.text = (t'.merge t).declarations.map Import.text ∧
      (t.declarations.map Import.written).Pairwise Import.Precedes := by
  intro package type t t'
  have hio : declare "java.io.*" {} = .ok { typesOnDemand := [⟨["java", "io"], 2, false⟩] } := by rfl
  have ht : t.Built := by
    have hstatic : declare "static a.C.*" (add ⟨.typesOnDemand, package⟩
        (add ⟨.singleType, type⟩ { typesOnDemand := [⟨["java", "io"], 2, false⟩] })) = .ok t := by rfl
    exact .declare (.add (.add (.declare .empty hio) ⟨.singleType, type⟩) ⟨.typesOnDemand, package⟩) hstatic
  have ht' : t'.Built := by
    have hstatic : declare "import static a.C.*;" (add ⟨.typesOnDemand, type⟩ (add ⟨.singleType, package⟩ {})) =
        .ok { singleTypes := [package], typesOnDemand := [type], staticsOnDemand := [⟨["a", "C"], 1, false⟩] } := by rfl
    exact .merge (.declare (.add (.add .empty ⟨.singleType, package⟩) ⟨.typesOnDemand, type⟩) hstatic)
      (.declare .empty hio)
  have hsets : ∀ kind target, t.Declares kind target ↔ t'.Declares kind target := by
    intro kind target
    cases kind <;> simp [Declares, targets, t, t', package, type, Name.canonical, or_comm]
  obtain ⟨hlines, horder, hmerge⟩ := declarations_independent_of_history
  exact ⟨ht, ht', hsets, (hlines ht ht' hsets).1, hmerge ht ht', (horder ht).2.2⟩

end ImportTable

end JavaSource
