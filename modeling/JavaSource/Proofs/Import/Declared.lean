import JavaSource.Import.Table
import JavaSource.Proofs.Name.Division

/-!
# Tables of declarations that were read

A resolver starts from the declarations of an author, and these come from texts.  What a text can declare is
limited: its target is divided by convention, and what a static import of a single name declares is a member,
hence never a top-level type (`Parsed.singleStatics_isMember`).  The last section reads off the table why it allows
a type or a member to be shortened.
-/

namespace JavaSource

lemma Name.isIn_iff {n : Name} {names : List Name} :
    n.isIn names = true ↔ ∃ m ∈ names, m.canonical = n.canonical := by
  simp [Name.isIn, Name.same_iff]

namespace Import

/-- What a static import of a single name makes of a name: the name itself if it is a member, and otherwise the member
of the type around it. -/
lemma staticMember_cases {n m : Name} (h : staticMember n = .ok m) :
    n.isMember = true ∧ m = n ∨
      ∃ outer, n.enclosing? = some outer ∧ outer.isPackage = false ∧
        m = ⟨outer.identifiers ++ [n.last], outer.level, true⟩ ∧ m.WellFormed := by
  simp only [staticMember] at h
  split at h
  · rename_i hm
    cases h
    exact Or.inl ⟨hm, rfl⟩
  · split at h
    · rename_i outer houter
      obtain ⟨hp, -, rfl, hwf⟩ := Name.memberOf_eq_ok h
      exact Or.inr ⟨outer, Name.enclosing?_of_enclosing houter, hp, rfl, hwf⟩
    · cases h

lemma staticMember_eq_ok {n m : Name} (hn : n.Conventional) (h : staticMember n = .ok m) :
    m.Conventional ∧ m.isMember = true := by
  rcases staticMember_cases h with ⟨hm, rfl⟩ | ⟨outer, henc, hp, rfl, hwf⟩
  · exact ⟨hn, hm⟩
  · refine ⟨⟨hwf, ?_⟩, rfl⟩
    -- the enclosing type is no package, so its own identifiers already settle the division
    have hout := hn.enclosing henc
    have hlt : outer.level < outer.identifiers.length := hout.level_lt hp
    rw [hout.level_eq] at hlt ⊢
    rw [List.findIdx_append, if_pos]
    exact hlt

/-- What can be read as a declaration: a name that was read, or in a static import of a single name the member that it
stands for. -/
inductive Declarable : Import → Prop
  | name {kind : ImportKind} {n : Name} (hkind : kind ≠ .singleStatic) (hn : n.Parsed) : Declarable ⟨kind, n⟩
  | member {n m : Name} (hn : n.Parsed) (h : staticMember n = .ok m) : Declarable ⟨.singleStatic, m⟩

lemma declarable_of_parse {declaration : Text} {i : Import} (h : parse declaration = .ok i) : i.Declarable := by
  have read : ∀ {kind : ImportKind} {t : Text}, kind ≠ .singleStatic →
      (Name.parse t).map (Import.mk kind) = .ok i → i.Declarable := by
    intro kind t hkind hmap
    cases hp : Name.parse t with
    | error e => simp [hp, Except.map] at hmap
    | ok n =>
        simp only [hp, Except.map, Except.ok.injEq] at hmap
        subst hmap
        exact .name hkind ⟨t, hp⟩
  simp only [parse] at h
  split at h
  · split at h
    · exact read (by decide) h
    · exact read (by decide) h
  · split at h
    · exact read (by decide) h
    · split at h
      · rename_i n hp
        cases hs : staticMember n with
        | error e => simp [hs, Except.map] at h
        | ok m =>
            simp only [hs, Except.map, Except.ok.injEq] at h
            subst h
            exact .member ⟨_, hp⟩ hs
      · cases h

lemma Declarable.conventional {i : Import} (h : i.Declarable) : i.target.Conventional := by
  cases h with
  | name _ hn => exact hn.conventional
  | member hn hs => exact (staticMember_eq_ok hn.conventional hs).1

lemma Declarable.isMember {i : Import} (h : i.Declarable) (hkind : i.kind = .singleStatic) :
    i.target.isMember = true := by
  cases h with
  | name hne _ => exact absurd hkind hne
  | member hn hs => exact (staticMember_eq_ok hn.conventional hs).2

end Import

namespace ImportTable

/-- Every declaration of the table was read from a text. -/
def Parsed (t : ImportTable) : Prop := ∀ i ∈ t.entries, ∃ declaration, Import.parse declaration = .ok i

/-- The declared names of one kind. -/
def targets (t : ImportTable) : ImportKind → List Name
  | .singleType => t.singleTypes
  | .typesOnDemand => t.typesOnDemand
  | .singleStatic => t.singleStatics
  | .staticsOnDemand => t.staticsOnDemand

lemma mem_entries_iff {t : ImportTable} {i : Import} : i ∈ t.entries ↔ i.target ∈ t.targets i.kind := by
  obtain ⟨kind, target⟩ := i
  cases kind <;> simp [entries, targets]

lemma targets_add (t : ImportTable) (i : Import) (kind : ImportKind) :
    (t.add i).targets kind = if kind = i.kind then i.target.insertInto (t.targets kind) else t.targets kind := by
  obtain ⟨own, target⟩ := i
  cases own <;> cases kind <;> rfl

lemma mem_entries_add {t : ImportTable} {i j : Import} (h : j ∈ (t.add i).entries) :
    j ∈ t.entries ∨ j = i := by
  rw [mem_entries_iff, targets_add] at h
  rw [mem_entries_iff]
  split at h
  · rename_i hkind
    simp only [Name.insertInto] at h
    split at h
    · exact Or.inl h
    · rcases List.mem_append.mp h with h | h
      · exact Or.inl h
      · obtain ⟨_, _⟩ := i
        obtain ⟨_, _⟩ := j
        simp_all
  · exact Or.inl h

lemma ofDeclarations_cons (d : Text) (ds : List Text) (t : ImportTable) :
    ofDeclarations (d :: ds) t = (t.declare d).bind fun t => ofDeclarations ds t :=
  List.foldlM_cons

lemma Parsed.empty : Parsed {} := by
  simp [Parsed, entries]

/-- **What every declaration keeps** holds of a table that is built by reading declarations. -/
lemma ofDeclarations_keeps {P : ImportTable → Prop} {declarations : List Text} {t t' : ImportTable}
    (hadd : ∀ {t : ImportTable} {d : Text} {i : Import}, Import.parse d = .ok i → P t → P (t.add i)) (ht : P t)
    (h : ofDeclarations declarations t = .ok t') : P t' := by
  induction declarations generalizing t with
  | nil =>
      cases h
      exact ht
  | cons d ds ih =>
      rw [ofDeclarations_cons, declare] at h
      cases hd : Import.parse d with
      | error e => simp [hd, Except.map, Except.bind] at h
      | ok i =>
          simp only [hd, Except.map, Except.bind] at h
          exact ih (hadd hd ht) h

/-- A table that is built by reading declarations holds only what was read. -/
lemma Parsed.ofDeclarations {declarations : List Text} {t t' : ImportTable} (ht : t.Parsed)
    (h : ofDeclarations declarations t = .ok t') : t'.Parsed := by
  refine ofDeclarations_keeps (fun {t d i} hd ht => ?_) ht h
  intro j hj
  rcases mem_entries_add hj with hj | rfl
  · exact ht j hj
  · exact ⟨d, hd⟩

lemma Parsed.declarable {t : ImportTable} (ht : t.Parsed) {i : Import} (hi : i ∈ t.entries) : i.Declarable := by
  obtain ⟨d, hd⟩ := ht i hi
  exact Import.declarable_of_parse hd

/-- What is declared by itself is divided by convention. -/
lemma Parsed.singleTypes_conventional {t : ImportTable} (ht : t.Parsed) {n : Name} (hn : n ∈ t.singleTypes) :
    n.Conventional := by
  exact (ht.declarable (i := ⟨.singleType, n⟩) (by simp [entries, hn])).conventional

/-- **A single static declaration names a member**, with at least one type between it and its package. -/
lemma Parsed.singleStatics_isMember {t : ImportTable} (ht : t.Parsed) {n : Name} (hn : n ∈ t.singleStatics) :
    n.Conventional ∧ n.isMember = true := by
  have hread := ht.declarable (i := ⟨.singleStatic, n⟩) (by simp [entries, hn])
  exact ⟨hread.conventional, hread.isMember rfl⟩

/-- Hence no top-level type has one. -/
lemma Parsed.isIn_singleStatics_eq_false {t : ImportTable} (ht : t.Parsed) {n : Name} (hn : n.Conventional)
    (htop : n.isTopLevel = true) : n.isIn t.singleStatics = false := by
  cases h : n.isIn t.singleStatics with
  | false => rfl
  | true =>
      obtain ⟨m, hm, hcan⟩ := Name.isIn_iff.mp h
      obtain ⟨hconv, hmem⟩ := ht.singleStatics_isMember hm
      have hlevel := hconv.level_eq_of_canonical hn hcan
      have hids := hconv.identifiers_eq hn.toWellFormed hcan
      have hinside := hconv.member_inside hmem
      have hsize := hn.isTopLevel_iff.mp htop
      simp only [Name.size] at hsize hinside
      rw [hids] at hinside
      omega

/-! ## What a table allows -/

/-- The types of the package are declared on demand. -/
def hasPackage (t : ImportTable) (package : Text) : Bool :=
  t.typesOnDemand.any fun scope => scope.canonical == package

lemma styleFor_eq_last_iff {t : ImportTable} {n : Name} : t.styleFor n = .last ↔ t.allowsLast n = true := by
  unfold styleFor
  cases t.allowsLast n <;> cases t.allowsShort n <;> simp

lemma styleFor_eq_short_iff {t : ImportTable} {n : Name} :
    t.styleFor n = .short ↔ t.allowsLast n = false ∧ t.allowsShort n = true := by
  unfold styleFor
  cases t.allowsLast n <;> cases t.allowsShort n <;> simp

lemma styleFor_eq_canonical_iff {t : ImportTable} {n : Name} :
    t.styleFor n = .canonical ↔ t.allowsLast n = false ∧ t.allowsShort n = false := by
  unfold styleFor
  cases t.allowsLast n <;> cases t.allowsShort n <;> simp

/-- The last identifier of a type that is declared by itself is enough. -/
lemma allowsLast_of_hasSingleType {t : ImportTable} {n : Name} (hm : n.isMember = false)
    (h : t.hasSingleType n = true) : t.allowsLast n = true := by
  simp only [hasSingleType] at h
  simp [allowsLast, hasSingle, hm, h]

lemma hasSingleType_of_allowsLast {t : ImportTable} {n : Name} (hm : n.isMember = false)
    (h : t.allowsLast n = false) : t.hasSingleType n = false := by
  cases hsingle : t.hasSingleType n with
  | false => rfl
  | true =>
      rw [allowsLast_of_hasSingleType hm hsingle] at h
      exact Bool.noConfusion h

/-- When the last identifier of a type is enough: it is declared by itself, or it is nested in a type whose contents
are declared on demand. -/
lemma allows_of_styleFor_eq_last {t : ImportTable} {n : Name} (hm : n.isMember = false)
    (h : t.styleFor n = .last) :
    t.hasSingle n = true ∨
      1 < n.simpleNames.length ∧ ∃ outer, n.enclosing? = some outer ∧ outer.isIn t.typesOnDemand = true := by
  have hallows := styleFor_eq_last_iff.mp h
  simpa [allowsLast, hm, Option.any_eq_true] using hallows

lemma of_hasStatic {t : ImportTable} {n : Name} (h : t.hasStatic n = true) :
    n.isIn t.singleStatics = true ∨ ∃ outer, n.enclosing? = some outer ∧ outer.isIn t.staticsOnDemand = true := by
  simp only [hasStatic, Bool.and_eq_true, Bool.or_eq_true, Option.any_eq_true] at h
  exact h.2

lemma hasPackage_of_styleFor {t : ImportTable} {n : Name} (h : t.styleFor n = .short) :
    t.hasPackage n.package = true := by
  have hshort := (styleFor_eq_short_iff.mp h).2
  simp only [allowsShort, Bool.and_eq_true] at hshort
  exact hshort.2

end ImportTable

end JavaSource
