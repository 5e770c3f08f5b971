import Mathlib.Data.List.Sort
import JavaSource.Proofs.Import.Declared

/-!
# The order of declarations

The declarations of a table are written in a fixed order: static ones last, and within each group by the text of the
target.  `comesBefore` is a total preorder (`comesBefore_total`, `comesBefore_trans`), so sorting by it gives a sorted
list.  What it does not tell apart, a type and all that is declared in it, stays in the order of the entries
(`filter_tied_declarations`).

**Static members.**  Before the pass of a resolver the members that are declared by themselves claim their identifiers
*in this order*.  `staticMembers` lists them.  Their order is decided by their own texts, whatever else the table
declares: `staticMembers_eq`.
-/

namespace JavaSource

/-! ## Lexicographic order -/

namespace Text

lemma compare_eq_gt_iff : ∀ s t : Text, compare s t = .gt ↔ List.lt t s
  | [], [] => by simp [compare]
  | [], d :: ds => by simp [compare]
  | c :: cs, [] => by simp [compare]
  | c :: cs, d :: ds => by
      have hlt : ∀ a b : Char, a < b ↔ a.toNat < b.toNat := fun _ _ => Iff.rfl
      have hcons : List.lt (d :: ds) (c :: cs) ↔ d < c ∨ d = c ∧ List.lt ds cs := List.cons_lt_cons_iff
      rw [compare, hcons, hlt, ← Char.toNat_inj]
      split
      · simp
        omega
      · split
        · simp
          omega
        · rw [compare_eq_gt_iff cs ds]
          constructor
          · exact fun h => Or.inr ⟨by omega, h⟩
          · rintro (h | ⟨-, h⟩)
            · omega
            · exact h

/-- The order of texts is the lexicographic one. -/
lemma le_iff (s t : Text) : le s t = true ↔ List.le s t := by
  rw [le, bne_iff_ne, Ne, compare_eq_gt_iff]
  exact List.not_lt

end Text

namespace ImportTable

/-! ## Sorting declarations -/

lemma comesBefore_iff (i j : Import) : comesBefore i j = true ↔
    i.kind.isStatic = j.kind.isStatic ∧ List.le i.target.canonical j.target.canonical ∨
      i.kind.isStatic = false ∧ j.kind.isStatic = true := by
  unfold comesBefore
  cases i.kind.isStatic <;> cases j.kind.isStatic <;> simp [Text.le_iff]

lemma comesBefore_total (i j : Import) : (comesBefore i j || comesBefore j i) = true := by
  have htotal : List.le i.target.canonical j.target.canonical ∨ List.le j.target.canonical i.target.canonical :=
    List.le_total _ _
  rw [Bool.or_eq_true, comesBefore_iff, comesBefore_iff]
  by_cases hs : i.kind.isStatic = j.kind.isStatic
  · rcases htotal with h | h
    · exact Or.inl (Or.inl ⟨hs, h⟩)
    · exact Or.inr (Or.inl ⟨hs.symm, h⟩)
  · cases hi : i.kind.isStatic <;> cases hj : j.kind.isStatic <;> simp_all

lemma comesBefore_trans (i j k : Import) (hij : comesBefore i j = true) (hjk : comesBefore j k = true) :
    comesBefore i k = true := by
  rw [comesBefore_iff] at *
  rcases hij with ⟨hs, hle⟩ | ⟨hi, hj⟩
  · rcases hjk with ⟨hs', hle'⟩ | ⟨hj, hk⟩
    · exact Or.inl ⟨hs.trans hs', List.le_trans hle hle'⟩
    · exact Or.inr ⟨hs.trans hj, hk⟩
  · rcases hjk with ⟨hs', -⟩ | ⟨hj', -⟩
    · exact Or.inr ⟨hi, hs' ▸ hj⟩
    · rw [hj] at hj'
      exact Bool.noConfusion hj'

/-- Sorting does not tell the declarations apart: they are in the same group and have the same target. -/
def tied (i j : Import) : Bool := i.kind.isStatic == j.kind.isStatic && i.target.canonical == j.target.canonical

/-- **Tied declarations keep their order.** -/
lemma filter_tied_declarations (t : ImportTable) (i : Import) :
    t.declarations.filter (tied i) = t.entries.filter (tied i) := by
  have hties : (t.entries.filter (tied i)).Pairwise fun j k => comesBefore j k = true := by
    rw [List.pairwise_filter]
    refine List.pairwise_of_forall fun j k hj hk => ?_
    simp only [tied, Bool.and_eq_true, beq_iff_eq] at hj hk
    have htarget : j.target.canonical = k.target.canonical := hj.2.symm.trans hk.2
    rw [comesBefore_iff, htarget]
    exact Or.inl ⟨hj.1.symm.trans hk.1, List.le_refl _⟩
  have hstable : (t.entries.filter (tied i)).Sublist t.declarations :=
    List.sublist_mergeSort comesBefore_trans comesBefore_total hties List.filter_sublist
  have hsublist : (t.entries.filter (tied i)).Sublist (t.declarations.filter (tied i)) := by
    simpa only [List.filter_filter, Bool.and_self] using hstable.filter (tied i)
  have hperm : (t.declarations.filter (tied i)).Perm (t.entries.filter (tied i)) :=
    (List.mergeSort_perm t.entries comesBefore).filter _
  exact (hsublist.eq_of_length hperm.length_eq.symm).symm

/-- The entries of one kind are its targets. -/
lemma map_target_filter_entries (t : ImportTable) (kind : ImportKind) :
    (t.entries.filter (·.kind == kind)).map (·.target) = t.targets kind := by
  have own : ∀ names : List Name, ((names.map (Import.mk kind)).filter (·.kind == kind)).map (·.target) = names := by
    intro names
    simp [List.filter_map, Function.comp_def]
  have other : ∀ {k : ImportKind} (names : List Name), k ≠ kind →
      ((names.map (Import.mk k)).filter (·.kind == kind)).map (·.target) = [] := by
    intro k names hk
    simp [List.filter_map, Function.comp_def, hk]
  simp only [entries, List.filter_append, List.map_append]
  cases kind with
  | singleType => simp [targets, own, other]
  | typesOnDemand => simp [targets, own, other]
  | singleStatic => simp [targets, own, other]
  | staticsOnDemand => simp [targets, own, other]

/-- **Sorting loses nothing**, of no kind of declaration. -/
lemma perm_targets (t : ImportTable) (kind : ImportKind) :
    ((t.declarations.filter (·.kind == kind)).map (·.target)).Perm (t.targets kind) := by
  rw [← map_target_filter_entries]
  exact ((List.mergeSort_perm t.entries comesBefore).filter _).map _

/-! ## Static members -/

/-- The members that are declared by themselves, in the order in which they are written. -/
def staticMembers (t : ImportTable) : List Name :=
  (t.declarations.filter (·.kind == .singleStatic)).map (·.target)

lemma perm_staticMembers (t : ImportTable) : t.staticMembers.Perm t.singleStatics := t.perm_targets .singleStatic

lemma mem_staticMembers {t : ImportTable} {n : Name} : n ∈ t.staticMembers ↔ n ∈ t.singleStatics :=
  t.perm_staticMembers.mem_iff

lemma pairwise_staticMembers (t : ImportTable) :
    t.staticMembers.Pairwise fun m n => List.le m.canonical n.canonical := by
  have hsorted : t.declarations.Pairwise fun i j => comesBefore i j = true :=
    List.pairwise_mergeSort comesBefore_trans comesBefore_total t.entries
  rw [staticMembers, List.pairwise_map]
  refine (hsorted.filter _).imp_of_mem ?_
  intro i j hi hj hij
  have hi' : i.kind = .singleStatic := by simpa using (List.mem_filter.mp hi).2
  have hj' : j.kind = .singleStatic := by simpa using (List.mem_filter.mp hj).2
  rcases (comesBefore_iff i j).mp hij with ⟨-, hle⟩ | ⟨hstatic, -⟩
  · exact hle
  · simp [hi', ImportKind.isStatic] at hstatic

/-- **The order of static members is their own**: tables that declare the same ones list them alike. -/
lemma Parsed.staticMembers_eq {t t' : ImportTable} (ht : t.Parsed) (h : t'.singleStatics = t.singleStatics) :
    t'.staticMembers = t.staticMembers := by
  refine List.Perm.eq_of_pairwise ?_ t'.pairwise_staticMembers t.pairwise_staticMembers ?_
  · intro m n hm hn hmn hnm
    have hm' := ht.singleStatics_isMember (h ▸ mem_staticMembers.mp hm)
    have hn' := ht.singleStatics_isMember (mem_staticMembers.mp hn)
    exact hm'.1.eq_of_canonical hn'.1 (List.le_antisymm hmn hnm) (hm'.2.trans hn'.2.symm)
  · exact t'.perm_staticMembers.trans (h ▸ t.perm_staticMembers.symm)

end ImportTable

end JavaSource
