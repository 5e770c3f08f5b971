import JavaSource.Proofs.Import.Rerun
import JavaSource.Proofs.Name.Canonical

/-!
# The imports that are returned

The pass keeps two accounts: the imports, to which it adds, and the types that are noted as used, by which it prunes in
the end.  This file says which imports come out, **read off the decisions alone**.

**Moves.**  A decision takes note of a type first and is recorded afterwards, so in between the accounts are ahead of the
decisions.  `Move` takes the pass apart into pieces that end with a recording: the decision about a type as a whole, a
package or a member recorded, or a simple name claimed.  What every move keeps, the pass keeps
(`Resolver.run_moves`).

**Both directions.**  Every note of use, and every import that was added, goes back to a recorded decision
(`Assignment.Traced`).  And every recorded decision has left its note (`Assignment.Coherent.used_of_last`,
`Assignment.Coherent.used_of_short`).
-/

namespace JavaSource

/-! ## The names of a pass -/

namespace Name

variable {n outer : Name}

/-- A name divided by convention, and not capitalized at its end if it is a member.  Names that are read are regular, and
so are the types around them. -/
structure Regular (n : Name) : Prop extends Conventional n where
  small : n.isMember = true → isCapitalized n.last = false

lemma Parsed.regular (h : n.Parsed) : n.Regular := by
  refine ⟨h.conventional, fun hm => ?_⟩
  rw [h.eq_byConvention] at hm
  simp only [byConvention, Bool.and_eq_true, Bool.not_eq_true'] at hm
  exact hm.2

lemma Regular.enclosing (hn : n.Regular) (h : n.enclosing? = some outer) : outer.Regular := by
  refine ⟨hn.toConventional.enclosing h, fun hm => ?_⟩
  obtain ⟨-, rfl⟩ := enclosing?_eq_some h
  exact Bool.noConfusion hm

end Name

namespace Assignment

variable {r : Resolver} {s s' : Assignment} {n : Name}

/-! ## Moves -/

/-- A piece of the pass. -/
inductive Move (r : Resolver) : Assignment → Assignment → Prop
  | claim (s : Assignment) (simple : Text) (owner : Name) : Move r s (s.claim simple owner).2
  | package (s : Assignment) {n : Name} (hn : n.Regular) (hp : n.isPackage = true) : Move r s (s.record n .canonical)
  /-- The decision about a type: it is made and recorded. -/
  | type (s : Assignment) {n : Name} (hn : n.Regular) (hp : n.isPackage = false) (hm : n.isMember = false) :
      Move r s ((s.decideType r n).2.record n (s.decideType r n).1)
  | member (s : Assignment) {n : Name} (hn : n.Regular) (hm : n.isMember = true) (style : Style) :
      Move r s (s.record n style)

/-- Moves one after the other. -/
abbrev Moves (r : Resolver) : Assignment → Assignment → Prop := Relation.ReflTransGen (Move r)

lemma moves_claim (s : Assignment) (simple : Text) (owner : Name) : Moves r s (s.claim simple owner).2 :=
  .single (.claim s simple owner)

lemma decidePlain_moves (hn : n.Regular) (hm : n.isPackage = false → n.isMember = false) :
    Moves r s (s.decidePlain r n).2 := by
  unfold decidePlain
  cases hknown : s.styleOf? n with
  | some style => exact .refl
  | none =>
      cases hp : n.isPackage with
      | true => exact .single (.package s hn hp)
      | false => exact .single (.type s hn hp (hm hp))

lemma decideByType_moves (hn : n.Regular) (hm : n.isMember = true) : Moves r s (s.decideByType r n).2 := by
  obtain ⟨outer, he⟩ := hn.exists_enclosing hm
  rw [decideByType_eq r s he]
  refine decidePlain_moves (hn.enclosing he) fun _ => ?_
  rw [hn.enclosing_of_member hm he]

lemma decideMember_moves (hn : n.Regular) (hm : n.isMember = true) : Moves r s (s.decideMember r n).2 := by
  cases hstatic : r.declared.hasStatic n with
  | false =>
      simp only [decideMember, hstatic, Bool.false_eq_true, if_false]
      exact decideByType_moves hn hm
  | true =>
      rw [decideMember_of_static s hstatic]
      split
      · exact moves_claim s n.last n
      · exact (moves_claim s n.last n).trans (decideByType_moves hn hm)

/-- **Every decision is made of moves.** -/
lemma decide_moves (hn : n.Regular) : Moves r s (s.decide r n).2 := by
  unfold decide
  split
  · rename_i hplain
    refine decidePlain_moves hn fun hp => ?_
    simpa [hp] using hplain
  · rename_i hmember
    have hm : n.isMember = true := by simp_all
    cases hknown : s.styleOf? n with
    | some style => exact .refl
    | none => exact (decideMember_moves hn hm).tail (.member _ hn hm _)

lemma foldl_decide_moves {names : List Name} (hnames : ∀ n ∈ names, n.Regular) :
    Moves r s (names.foldl (fun s n => (s.decide r n).2) s) := by
  induction names generalizing s with
  | nil => exact .refl
  | cons n names ih =>
      obtain ⟨hn, hnames⟩ := List.forall_mem_cons.mp hnames
      exact (decide_moves hn).trans (ih hnames)

end Assignment

namespace Resolver

/-- **What the pass keeps**: whatever holds before it and is kept by every move holds after it. -/
lemma run_moves (r : Resolver) {names : List Name} (hnames : ∀ n ∈ names, n.Parsed) {P : Assignment → Prop}
    (hinit : P (Assignment.initial r)) (hmove : ∀ {s s' : Assignment}, Assignment.Move r s s' → P s → P s') :
    P (r.run names) :=
  Assignment.keeps (Assignment.foldl_decide_moves fun n h => (hnames n h).regular) hinit hmove

end Resolver

namespace Assignment

variable {r : Resolver} {s s' : Assignment} {n t : Name} {style : Style}

/-! ## Notes of use -/

/-- The decision to write the name in the style takes note of the type: of the name itself if it is written by its last
identifier, and of its top-level type if no declaration covers it. -/
inductive Notes (r : Resolver) (n : Name) : Style → Name → Prop
  | last (hm : n.isMember = false) : Notes r n .last n
  | short {top : Name} (hm : n.isMember = false) (hs : r.declared.styleFor n = .canonical)
      (ht : n.topLevel? = some top) : Notes r n .short top

/-- Whatever the accounts hold goes back to a decision. -/
structure Traced (r : Resolver) (s : Assignment) : Prop where
  used : ∀ t ∈ s.used, ∃ n style, (n, style) ∈ s.styles ∧ Notes r n style t
  imports : ∀ t ∈ s.imports.singleTypes, t ∈ r.declared.singleTypes ∨
    r.isVisible t.package = false ∧ ∃ n, (n, .short) ∈ s.styles ∧ Notes r n .short t

lemma Traced.grow (h : s.Traced r) (hu : s'.used = s.used) (hi : s'.imports = s.imports)
    (hs : s.styles ⊆ s'.styles) : s'.Traced r := by
  constructor
  · intro t ht
    obtain ⟨n, style, hmem, hnotes⟩ := h.used t (hu ▸ ht)
    exact ⟨n, style, hs hmem, hnotes⟩
  · intro t ht
    refine (h.imports t (hi ▸ ht)).imp id ?_
    rintro ⟨hv, n, hmem, hnotes⟩
    exact ⟨hv, n, hs hmem, hnotes⟩

/-- What a decision about a type adds to the accounts. -/
lemma decideType_notes (hp : n.isPackage = false) (hm : n.isMember = false) :
    (∀ t ∈ (s.decideType r n).2.used, t ∈ s.used ∨ Notes r n (s.decideType r n).1 t) ∧
      ∀ t ∈ (s.decideType r n).2.imports.singleTypes, t ∈ s.imports.singleTypes ∨
        r.isVisible t.package = false ∧ (s.decideType r n).1 = .short ∧ Notes r n .short t := by
  obtain ⟨top, ht⟩ : ∃ top, n.topLevel? = some top := ⟨_, Name.topLevel?_of_not_isPackage hp⟩
  cases hstyle : r.declared.styleFor n with
  | last =>
      rw [decideType_of_last s hstyle]
      split
      · refine ⟨fun t hmem => ?_, fun t hmem => Or.inl (by simpa [use] using hmem)⟩
        rcases List.mem_cons.mp hmem with rfl | hmem
        · exact Or.inr (.last hm)
        · exact Or.inl (by simpa using hmem)
      · exact ⟨fun t hmem => Or.inl (by simpa using hmem), fun t hmem => Or.inl (by simpa using hmem)⟩
  | short =>
      rw [decideType_of_short s hstyle ht]
      split <;> exact ⟨fun t hmem => Or.inl (by simpa using hmem), fun t hmem => Or.inl (by simpa using hmem)⟩
  | canonical =>
      rw [decideType_of_canonical s hstyle ht]
      split
      · constructor
        · intro t hmem
          rcases List.mem_cons.mp hmem with rfl | hmem
          · exact Or.inr (.short hm hstyle ht)
          · exact Or.inl (by simpa [used_require] using hmem)
        · intro t hmem
          simp only [use, imports_require, imports_claim] at hmem
          split at hmem
          · exact Or.inl hmem
          · rename_i hnot
            rcases List.mem_append.mp hmem with hmem | hmem
            · exact Or.inl hmem
            · rw [List.mem_singleton.mp hmem]
              exact Or.inr ⟨by simp_all, rfl, .short hm hstyle ht⟩
      · exact ⟨fun t hmem => Or.inl (by simpa using hmem), fun t hmem => Or.inl (by simpa using hmem)⟩

/-- **One move** leaves nothing in the accounts without its decision. -/
lemma Move.traced (move : Move r s s') (h : s.Traced r) : s'.Traced r := by
  cases move with
  | claim simple owner =>
      exact h.grow (used_claim s simple owner) (imports_claim s simple owner) (by simp)
  | package => exact h.grow rfl rfl (List.subset_append_left ..)
  | member => exact h.grow rfl rfl (List.subset_append_left ..)
  | @type n hn hp hm =>
      obtain ⟨hused, himports⟩ := decideType_notes (r := r) (s := s) hp hm
      have hold : s.styles ⊆ ((s.decideType r n).2.record n (s.decideType r n).1).styles := by
        rw [record, styles_decideType]
        exact List.subset_append_left ..
      have hnew : (n, (s.decideType r n).1) ∈ ((s.decideType r n).2.record n (s.decideType r n).1).styles := by
        simp [record]
      constructor
      · intro t ht
        rcases hused t ht with ht | hnotes
        · obtain ⟨m, style, hmem, hnotes⟩ := h.used t ht
          exact ⟨m, style, hold hmem, hnotes⟩
        · exact ⟨n, _, hnew, hnotes⟩
      · intro t ht
        rcases himports t ht with ht | ⟨hv, hshort, hnotes⟩
        · refine (h.imports t ht).imp id ?_
          rintro ⟨hv, m, hmem, hnotes⟩
          exact ⟨hv, m, hold hmem, hnotes⟩
        · exact Or.inr ⟨hv, n, hshort ▸ hnew, hnotes⟩

end Assignment

/-- **The accounts hold nothing that no decision asks for.** -/
lemma Resolver.run_traced (r : Resolver) {names : List Name} (hnames : ∀ n ∈ names, n.Parsed) :
    (r.run names).Traced r := by
  refine r.run_moves hnames ⟨?_, ?_⟩ fun move h => move.traced h
  · simp [Assignment.used_initial]
  · intro t ht
    rw [(Assignment.initial_spec r).2] at ht
    exact Or.inl ht

namespace Assignment

variable {r : Resolver} {s : Assignment} {n t top : Name}

/-! ## What a decision has noted -/

lemma Coherent.used_of_last (hs : s.Coherent r) (h : (n, .last) ∈ s.styles) (hm : n.isMember = false) : n ∈ s.used := by
  cases hs.settled h with
  | last _ _ _ _ hu => exact hu
  | static hm' => simp [hm] at hm'
  | member hm' => simp [hm] at hm'

lemma Coherent.used_of_short (hs : s.Coherent r) (h : (n, .short) ∈ s.styles) (hm : n.isMember = false)
    (hstyle : r.declared.styleFor n = .canonical) (ht : n.topLevel? = some top) :
    top ∈ s.used ∧ (r.isVisible top.package = true ∨ s.imports.hasSingleType top = true) := by
  cases hs.settled h with
  | member hm' => simp [hm] at hm'
  | @short top' _ _ ht' hsupport _ =>
      rw [ht, Option.some.injEq] at ht'
      subst ht'
      rcases hsupport with hshort | ⟨-, hu, hscope⟩
      · rw [hstyle] at hshort
        cases hshort
      · exact ⟨hu, hscope⟩

/-- An import is returned if the pass ends with it and, under pruning, has noted it as used. -/
lemma hasSingleType_neededImports_iff : (s.neededImports r).hasSingleType t = true ↔
    s.imports.hasSingleType t = true ∧ (r.prune = true → t.isIn s.used = true) := by
  simp only [ImportTable.hasSingleType, singleTypes_neededImports, Name.isIn_iff, List.mem_filter, Bool.or_eq_true,
    Bool.not_eq_true']
  constructor
  · rintro ⟨m, ⟨hm, hkeep⟩, hcan⟩
    refine ⟨⟨m, hm, hcan⟩, fun hprune => ?_⟩
    rcases hkeep with hkeep | ⟨u, hu, hcan'⟩
    · rw [hprune] at hkeep
      cases hkeep
    · exact ⟨u, hu, hcan'.trans hcan⟩
  · rintro ⟨⟨m, hm, hcan⟩, hused⟩
    refine ⟨m, ⟨hm, ?_⟩, hcan⟩
    cases hprune : r.prune with
    | false => exact Or.inl rfl
    | true =>
        obtain ⟨u, hu, hcan'⟩ := hused hprune
        exact Or.inr ⟨u, hu, hcan'.trans hcan.symm⟩

end Assignment

namespace Resolver

variable {r : Resolver} {d : Decisions} {t : Name}

/-! ## The imports, read off the decisions -/

/-- The type is declared by itself, and a type is written by its last identifier under that declaration. -/
def Retains (r : Resolver) (d : Decisions) (t : Name) : Prop :=
  r.declared.hasSingleType t = true ∧ ∃ n, (n, .last) ∈ d.styles ∧ n.isMember = false ∧ n.canonical = t.canonical

/-- The type is the top-level type of one that no declaration covers and that is written without its package; and it is
declared by itself, or its package is not visible. -/
def Supplies (r : Resolver) (d : Decisions) (t : Name) : Prop :=
  ∃ n top, (n, .short) ∈ d.styles ∧ n.isMember = false ∧ r.declared.styleFor n = .canonical ∧
    n.topLevel? = some top ∧ top.canonical = t.canonical ∧
    (r.declared.hasSingleType top = true ∨ r.isVisible top.package = false)

lemma supplies_of_notes {n top : Name} (h : (n, .short) ∈ d.styles) (hnotes : Assignment.Notes r n .short top)
    (hcan : top.canonical = t.canonical)
    (hscope : r.declared.hasSingleType top = true ∨ r.isVisible top.package = false) : r.Supplies d t := by
  cases hnotes with
  | short hm hs ht => exact ⟨n, top, h, hm, hs, ht, hcan, hscope⟩

/-- What the pass ends with: the declared types, and those that it supplies. -/
lemma hasSingleType_run_iff {names : List Name} (hnames : ∀ n ∈ names, n.Parsed) :
    (r.run names).imports.hasSingleType t = true ↔
      r.declared.hasSingleType t = true ∨ r.Supplies (r.assign names) t := by
  have hfinal := r.run_final hnames
  constructor
  · intro h
    obtain ⟨m, hm, hcan⟩ := Name.isIn_iff.mp h
    rcases (r.run_traced hnames).imports m hm with hdeclared | ⟨hv, n, hmem, hnotes⟩
    · exact Or.inl (Name.isIn_iff.mpr ⟨m, hdeclared, hcan⟩)
    · exact Or.inr (supplies_of_notes hmem hnotes hcan (Or.inr hv))
  · rintro (h | ⟨n, top, hmem, hm, hs, ht, hcan, hscope⟩)
    · exact hfinal.hasSingleType h
    · have himported : (r.run names).imports.hasSingleType top = true := by
        rcases hscope with hdeclared | hv
        · exact hfinal.hasSingleType hdeclared
        · rcases (hfinal.coherent.used_of_short hmem hm hs ht).2 with hvisible | himported
          · rw [hv] at hvisible
            cases hvisible
          · exact himported
      obtain ⟨m, hm, hcan'⟩ := Name.isIn_iff.mp himported
      exact Name.isIn_iff.mpr ⟨m, hm, hcan'.trans hcan⟩

/-- Of these, the types that are noted as used: the declared ones that some type relies on, and those that the pass
supplies. -/
lemma isIn_used_run_iff {names : List Name} (hnames : ∀ n ∈ names, n.Parsed)
    (himported : (r.run names).imports.hasSingleType t = true) :
    t.isIn (r.run names).used = true ↔ r.Retains (r.assign names) t ∨ r.Supplies (r.assign names) t := by
  have hfinal := r.run_final hnames
  constructor
  · intro h
    obtain ⟨u, hu, hcan⟩ := Name.isIn_iff.mp h
    obtain ⟨n, style, hmem, hnotes⟩ := (r.run_traced hnames).used u hu
    rcases (hasSingleType_run_iff hnames).mp himported with hdeclared | hsupplied
    · cases hnotes with
      | last hm => exact Or.inl ⟨hdeclared, u, hmem, hm, hcan⟩
      | short hm hs ht =>
          have hdeclared' : r.declared.hasSingleType u = true := by
            obtain ⟨m, hm, hcan'⟩ := Name.isIn_iff.mp hdeclared
            exact Name.isIn_iff.mpr ⟨m, hm, hcan'.trans hcan.symm⟩
          exact Or.inr ⟨n, u, hmem, hm, hs, ht, hcan, Or.inl hdeclared'⟩
    · exact Or.inr hsupplied
  · rintro (⟨-, n, hmem, hm, hcan⟩ | ⟨n, top, hmem, hm, hs, ht, hcan, -⟩)
    · exact Name.isIn_iff.mpr ⟨n, hfinal.coherent.used_of_last hmem hm, hcan⟩
    · exact Name.isIn_iff.mpr ⟨top, (hfinal.coherent.used_of_short hmem hm hs ht).1, hcan⟩

/-- **Exactly the imports that the decisions need.**  Declarations on demand and static ones are returned as declared.
A single type is returned if it is supplied, or if it is declared and, under pruning, some type relies on that. -/
theorem imports_exactly_needed (r : Resolver) (names : List Name) (hnames : ∀ n ∈ names, n.Parsed) :
    let d := r.assign names
    d.imports.typesOnDemand = r.declared.typesOnDemand ∧ d.imports.singleStatics = r.declared.singleStatics ∧
      d.imports.staticsOnDemand = r.declared.staticsOnDemand ∧
      ∀ t, d.imports.hasSingleType t = true ↔
        (if r.prune then r.Retains d t else r.declared.hasSingleType t = true) ∨ r.Supplies d t := by
  intro d
  have hfinal := r.run_final hnames
  refine ⟨hfinal.typesOnDemand, hfinal.singleStatics, hfinal.staticsOnDemand, fun t => ?_⟩
  have hneeded : d.imports.hasSingleType t = true ↔ (r.run names).imports.hasSingleType t = true ∧
      (r.prune = true → t.isIn (r.run names).used = true) := Assignment.hasSingleType_neededImports_iff
  have himported : (r.run names).imports.hasSingleType t = true ↔
      r.declared.hasSingleType t = true ∨ r.Supplies d t := hasSingleType_run_iff hnames
  rw [hneeded]
  cases hprune : r.prune with
  | false => simpa using himported
  | true =>
      simp only [if_true, true_implies]
      constructor
      · rintro ⟨himp, hused⟩
        exact (isIn_used_run_iff hnames himp).mp hused
      · intro h
        have himp := himported.mpr (h.imp (·.1) id)
        exact ⟨himp, (isIn_used_run_iff hnames himp).mpr h⟩

/-- A declared type that is used, one that is not, and a nested type whose top-level type has to be imported. -/
theorem imports_exactly_needed_nested :
    let map : Name := ⟨["java", "util", "Map"], 2, false⟩
    let unused : Name := ⟨["c", "Unused"], 1, false⟩
    let inner : Name := ⟨["a", "Outer", "Inner"], 1, false⟩
    let outer : Name := ⟨["a", "Outer"], 1, false⟩
    let r : Resolver := { package := "com.example", declared := { singleTypes := [map, unused] } }
    let d := r.assign [inner, map]
    d.styles = [(inner, .short), (map, .last)] ∧ d.imports.singleTypes = [map, outer] ∧
      ¬ (r.Retains d unused ∨ r.Supplies d unused) ∧
      ∀ t, d.imports.hasSingleType t = true ↔
        (if r.prune then r.Retains d t else r.declared.hasSingleType t = true) ∨ r.Supplies d t := by
  intro map unused inner outer r d
  have hnames : ∀ n ∈ [inner, map], n.Parsed :=
    List.forall_mem_cons.mpr ⟨⟨"a.Outer.Inner", rfl⟩, List.forall_mem_singleton.mpr ⟨"java.util.Map", rfl⟩⟩
  have hstyles : d.styles = [(inner, .short), (map, .last)] := by
    simp only [d]
    rw [assign_of_singleStatics_nil _ _ rfl]
    decide +kernel
  have himports : d.imports.singleTypes = [map, outer] := by
    simp only [d]
    rw [assign_of_singleStatics_nil _ _ rfl]
    decide +kernel
  have hexactly := (imports_exactly_needed r [inner, map] hnames).2.2.2
  refine ⟨hstyles, himports, fun h => ?_, hexactly⟩
  have hreturned := (hexactly unused).mpr h
  rw [ImportTable.hasSingleType, himports] at hreturned
  exact absurd hreturned (by decide)

end Resolver

end JavaSource
