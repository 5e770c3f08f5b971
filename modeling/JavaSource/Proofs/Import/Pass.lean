import Mathlib.Data.List.Basic
import JavaSource.Import.Resolver
import JavaSource.Proofs.Import.Declared

/-!
# What the pass over the names keeps

The pass of a resolver decides name after name, and its state only grows: a claim, a decision, an import or a note
of use is added and never withdrawn (`Grows`).  So the reason for a decision can be read off every later state.

**Reasons.**  `Settled r s n style` says why `n` is written in `style`, path by path: which simple name was claimed,
for whom, and whether it was to be had.  It looks only at what never changes, hence `Settled.mono`.

**The invariant.**  `Coherent r s` says that every recorded decision is settled.  One decision keeps it
(`decide_spec`), and so does the pass (`Resolver.run_final`), which also decides every name that it is given.

**Who may be written short.**  A member follows its type, and its type may have been recorded as a member of another
type.  `Coherent.stands_of_short` walks this chain back: whatever is written without its package has a top-level type
that holds its simple name and is in scope, imported or declared.
-/

namespace JavaSource

/-- How a member is written whose type is written in this style. -/
def Style.ofMember (outer : Name) : Style → Style
  | .canonical => .canonical
  | .short => .short
  | .last => if outer.isTopLevel then .short else .canonical

lemma Style.ofMember_ne_last (outer : Name) : ∀ s : Style, s.ofMember outer ≠ .last
  | .canonical => by simp [Style.ofMember]
  | .short => by simp [Style.ofMember]
  | .last => by simp only [Style.ofMember]; split <;> simp

namespace Assignment

variable {r : Resolver} {s s' : Assignment} {n : Name} {style : Style}

/-! ## Claims -/

/-- The simple name belongs to the owner. -/
def Holds (s : Assignment) (simple : Text) (owner : Name) : Prop :=
  ∃ holder, s.claims.lookup simple = some holder ∧ holder.canonical = owner.canonical

/-- The simple name belongs to somebody else. -/
def Taken (s : Assignment) (simple : Text) (owner : Name) : Prop :=
  ∃ holder, s.claims.lookup simple = some holder ∧ holder.canonical ≠ owner.canonical

/-- **A simple name has one owner.** -/
lemma Holds.canonical_eq {simple : Text} {a b : Name} (ha : s.Holds simple a) (hb : s.Holds simple b) :
    a.canonical = b.canonical := by
  obtain ⟨holder, hlook, hcan⟩ := ha
  obtain ⟨holder', hlook', hcan'⟩ := hb
  rw [hlook, Option.some.injEq] at hlook'
  rw [← hcan, ← hcan', hlook']

/-! ## Growth -/

/-- One state comes from another by additions: nothing that is recorded is changed, and of the declarations only
those of single types become more. -/
structure Grows (s s' : Assignment) : Prop where
  claims : s.claims <+: s'.claims
  styles : s.styles <+: s'.styles
  singleTypes : s.imports.singleTypes <+: s'.imports.singleTypes
  typesOnDemand : s'.imports.typesOnDemand = s.imports.typesOnDemand
  singleStatics : s'.imports.singleStatics = s.imports.singleStatics
  staticsOnDemand : s'.imports.staticsOnDemand = s.imports.staticsOnDemand
  used : s.used ⊆ s'.used

lemma Grows.refl (s : Assignment) : s.Grows s :=
  ⟨List.prefix_refl _, List.prefix_refl _, List.prefix_refl _, rfl, rfl, rfl, fun _ h => h⟩

lemma Grows.trans {a b c : Assignment} (h₁ : a.Grows b) (h₂ : b.Grows c) : a.Grows c :=
  ⟨h₁.claims.trans h₂.claims, h₁.styles.trans h₂.styles, h₁.singleTypes.trans h₂.singleTypes,
    h₂.typesOnDemand.trans h₁.typesOnDemand, h₂.singleStatics.trans h₁.singleStatics,
    h₂.staticsOnDemand.trans h₁.staticsOnDemand, fun _ h => h₂.used (h₁.used h)⟩

lemma Holds.mono (g : s.Grows s') {simple : Text} {owner : Name} (h : s.Holds simple owner) :
    s'.Holds simple owner := by
  obtain ⟨holder, hlook, hcan⟩ := h
  exact ⟨holder, g.claims.lookup_eq_some hlook, hcan⟩

lemma Taken.mono (g : s.Grows s') {simple : Text} {owner : Name} (h : s.Taken simple owner) :
    s'.Taken simple owner := by
  obtain ⟨holder, hlook, hcan⟩ := h
  exact ⟨holder, g.claims.lookup_eq_some hlook, hcan⟩

lemma styleOf?_mono (g : s.Grows s') (h : s.styleOf? n = some style) : s'.styleOf? n = some style := by
  obtain ⟨entry, hfind, rfl⟩ := Option.map_eq_some_iff.mp h
  simp only [styleOf?, Style.decided?, g.styles.find?_eq_some hfind, Option.map_some]

lemma hasSingleType_mono (g : s.Grows s') (h : s.imports.hasSingleType n = true) :
    s'.imports.hasSingleType n = true := by
  obtain ⟨m, hm, hcan⟩ := Name.isIn_iff.mp h
  exact Name.isIn_iff.mpr ⟨m, g.singleTypes.subset hm, hcan⟩

lemma exists_of_styleOf? (h : s.styleOf? n = some style) :
    ∃ m, (m, style) ∈ s.styles ∧ m.canonical = n.canonical := by
  obtain ⟨⟨m, style'⟩, hfind, rfl⟩ := Option.map_eq_some_iff.mp h
  exact ⟨m, List.mem_of_find?_eq_some hfind, Name.same_iff.mp (by simpa using List.find?_some hfind)⟩

/-- Claiming settles who owns the simple name, and touches nothing else. -/
lemma claim_cases (s : Assignment) (simple : Text) (owner : Name) :
    ∃ s', s.Grows s' ∧ s'.styles = s.styles ∧
      (s.claim simple owner = (true, s') ∧ s'.Holds simple owner ∨
        s.claim simple owner = (false, s') ∧ s'.Taken simple owner) := by
  unfold claim
  split
  · rename_i holder hlook
    refine ⟨s, Grows.refl s, rfl, ?_⟩
    cases hsame : holder.same owner with
    | true => exact Or.inl ⟨rfl, holder, hlook, Name.same_iff.mp hsame⟩
    | false =>
        refine Or.inr ⟨rfl, holder, hlook, fun hcan => ?_⟩
        rw [Name.same_iff.mpr hcan] at hsame
        exact Bool.noConfusion hsame
  · rename_i hlook
    refine ⟨{ s with claims := s.claims ++ [(simple, owner)] }, ?_, rfl, Or.inl ⟨rfl, owner, ?_, rfl⟩⟩
    · exact ⟨List.prefix_append _ _, List.prefix_refl _, List.prefix_refl _, rfl, rfl, rfl, fun _ h => h⟩
    · rw [List.lookup_append, hlook, Option.none_or, List.lookup_cons_self]

lemma grows_require (r : Resolver) (top : Name) (s : Assignment) : s.Grows (s.require r top) := by
  unfold require
  split
  · exact Grows.refl s
  · refine ⟨List.prefix_refl _, List.prefix_refl _, ?_, rfl, rfl, rfl, fun _ h => h⟩
    simp only [ImportTable.add, Name.insertInto]
    split
    · exact List.prefix_refl _
    · exact List.prefix_append _ _

lemma styles_require (r : Resolver) (top : Name) (s : Assignment) : (s.require r top).styles = s.styles := by
  unfold require
  split <;> rfl

/-- After `require` the type can be referred to without its package. -/
lemma visible_or_imported (r : Resolver) (top : Name) (s : Assignment) :
    r.isVisible top.package = true ∨ (s.require r top).imports.hasSingleType top = true := by
  unfold require
  split
  · rename_i h
    rcases Bool.or_eq_true_iff.mp h with h | h
    · exact Or.inl h
    · exact Or.inr h
  · right
    simp only [ImportTable.add, ImportTable.hasSingleType, Name.insertInto]
    split
    · assumption
    · exact Name.isIn_iff.mpr ⟨top, by simp, rfl⟩

lemma grows_use (n : Name) (s : Assignment) : s.Grows (s.use n) :=
  ⟨List.prefix_refl _, List.prefix_refl _, List.prefix_refl _, rfl, rfl, rfl, fun _ h => List.mem_cons_of_mem _ h⟩

lemma grows_record (n : Name) (style : Style) (s : Assignment) : s.Grows (s.record n style) :=
  ⟨List.prefix_refl _, List.prefix_append _ _, List.prefix_refl _, rfl, rfl, rfl, fun _ h => h⟩

/-! ## Reasons -/

/-- Why a name is written in a style, as far as this can be told from the state. -/
inductive Settled (r : Resolver) (s : Assignment) : Name → Style → Prop
  /-- Packages are written in full. -/
  | package {n : Name} (hp : n.isPackage = true) : Settled r s n .canonical
  /-- A type that the declarations allow to be written by its last identifier, and that holds it. -/
  | last {n : Name} (hp : n.isPackage = false) (hm : n.isMember = false) (hs : r.declared.styleFor n = .last)
      (hold : s.Holds n.last n) (hu : n ∈ s.used) : Settled r s n .last
  | lastTaken {n : Name} (hp : n.isPackage = false) (hm : n.isMember = false)
      (hs : r.declared.styleFor n = .last) (taken : s.Taken n.last n) : Settled r s n .canonical
  /-- A type whose top-level type holds its simple name: its package is declared on demand, or it is noted as used
  and can be referred to. -/
  | short {n top : Name} (hp : n.isPackage = false) (hm : n.isMember = false) (ht : n.topLevel? = some top)
      (hs : r.declared.styleFor n = .short ∨ r.declared.styleFor n = .canonical ∧ top ∈ s.used ∧
        (r.isVisible top.package = true ∨ s.imports.hasSingleType top = true))
      (hold : s.Holds top.last top) : Settled r s n .short
  | shortTaken {n top : Name} (hp : n.isPackage = false) (hm : n.isMember = false) (ht : n.topLevel? = some top)
      (hs : r.declared.styleFor n ≠ .last) (taken : s.Taken top.last top) : Settled r s n .canonical
  /-- A member under a static declaration that holds its own identifier. -/
  | static {n : Name} (hm : n.isMember = true) (hs : r.declared.hasStatic n = true) (hold : s.Holds n.last n) :
      Settled r s n .last
  /-- Any other member follows the recorded style of its type. -/
  | member {n outer : Name} {style style' : Style} (hm : n.isMember = true)
      (hs : r.declared.hasStatic n = true → s.Taken n.last n) (he : n.enclosing? = some outer)
      (ho : s.styleOf? outer = some style) (hstyle : style' = style.ofMember outer) : Settled r s n style'

/-- **A reason stays a reason**: what it rests on is never withdrawn. -/
lemma Settled.mono (g : s.Grows s') (h : s.Settled r n style) : s'.Settled r n style := by
  cases h with
  | package hp => exact .package hp
  | last hp hm hs hold hu => exact .last hp hm hs (hold.mono g) (g.used hu)
  | lastTaken hp hm hs taken => exact .lastTaken hp hm hs (taken.mono g)
  | short hp hm ht hs hold =>
      refine .short hp hm ht ?_ (hold.mono g)
      rcases hs with hs | ⟨hs, hu, hv⟩
      · exact Or.inl hs
      · exact Or.inr ⟨hs, g.used hu, hv.imp id (hasSingleType_mono g)⟩
  | shortTaken hp hm ht hs taken => exact .shortTaken hp hm ht hs (taken.mono g)
  | static hm hs hold => exact .static hm hs (hold.mono g)
  | member hm hs he ho hstyle => exact .member hm (fun h => (hs h).mono g) he (styleOf?_mono g ho) hstyle

/-- Every recorded decision is one about a name divided by convention, and has its reason. -/
structure Coherent (r : Resolver) (s : Assignment) : Prop where
  conventional : ∀ {n : Name} {style : Style}, (n, style) ∈ s.styles → n.Conventional
  settled : ∀ {n : Name} {style : Style}, (n, style) ∈ s.styles → s.Settled r n style

lemma Coherent.grow (hs : s.Coherent r) (g : s.Grows s') (he : s'.styles = s.styles) : s'.Coherent r :=
  ⟨fun h => hs.conventional (he ▸ h), fun h => (hs.settled (he ▸ h)).mono g⟩

lemma Coherent.record (hs : s.Coherent r) (hn : n.Conventional) (hd : s.Settled r n style) :
    (s.record n style).Coherent r := by
  have g := grows_record n style s
  constructor
  · intro m t h
    rcases List.mem_append.mp h with h | h
    · exact hs.conventional h
    · cases List.mem_singleton.mp h
      exact hn
  · intro m t h
    rcases List.mem_append.mp h with h | h
    · exact (hs.settled h).mono g
    · cases List.mem_singleton.mp h
      exact hd.mono g

lemma styleOf?_record (style : Style) (h : s.styleOf? n = none) : (s.record n style).styleOf? n = some style := by
  have hnone := Option.map_eq_none_iff.mp h
  have hself : n.same n = true := Name.same_iff.mpr rfl
  simp only [styleOf?, Style.decided?, Assignment.record, List.find?_append, hnone, Option.none_or,
    List.find?_singleton, hself, if_true, Option.map_some]

/-! ## One decision

A decision is made in two steps: the style is found, which may claim simple names, import a type and decide the name
around a member (`Prepared`), and then it is recorded (`Decided`). -/

/-- The style of a name is found, and nothing but perhaps a name around it was decided on the way. -/
structure Prepared (r : Resolver) (s s' : Assignment) (n : Name) (style : Style) : Prop where
  grows : s.Grows s'
  coherent : s'.Coherent r
  settled : s'.Settled r n style
  added : ∀ entry ∈ s'.styles, entry ∈ s.styles ∨ entry.1.identifiers <+: n.identifiers.dropLast

/-- The style of a name is found and recorded. -/
structure Decided (r : Resolver) (s s' : Assignment) (n : Name) (style : Style) : Prop where
  grows : s.Grows s'
  coherent : s'.Coherent r
  recorded : s'.styleOf? n = some style
  added : ∀ entry ∈ s'.styles, entry ∈ s.styles ∨ entry.1.identifiers <+: n.identifiers

lemma Prepared.of_styles_eq (hs : s.Coherent r) (g : s.Grows s') (he : s'.styles = s.styles)
    (hd : s'.Settled r n style) : s.Prepared r s' n style :=
  ⟨g, hs.grow g he, hd, fun _ h => Or.inl (he ▸ h)⟩

/-- A name around `n` is another name, so `n` itself is still open. -/
lemma Prepared.styleOf?_eq_none (hn : n.Conventional) (h : s.Prepared r s' n style)
    (hnone : s.styleOf? n = none) : s'.styleOf? n = none := by
  cases hs : s'.styleOf? n with
  | none => rfl
  | some style' =>
      exfalso
      obtain ⟨m, hm, hcan⟩ := exists_of_styleOf? hs
      rcases h.added _ hm with hold | hprefix
      · have := List.find?_eq_none.mp (Option.map_eq_none_iff.mp hnone) _ hold
        exact this (Name.same_iff.mpr hcan)
      · have hids := (h.coherent.conventional hm).identifiers_eq hn.toWellFormed hcan
        have hlen := hprefix.length_le
        have hpos : 0 < n.identifiers.length := hn.size_pos
        rw [hids, List.length_dropLast] at hlen
        omega

/-- Recording what was found. -/
lemma Prepared.decided (hn : n.Conventional) (h : s.Prepared r s' n style) (hnone : s.styleOf? n = none) :
    s.Decided r (s'.record n style) n style := by
  refine ⟨h.grows.trans (grows_record n style s'), h.coherent.record hn h.settled,
    styleOf?_record style (h.styleOf?_eq_none hn hnone), ?_⟩
  intro entry hentry
  rcases List.mem_append.mp hentry with hentry | hentry
  · exact (h.added entry hentry).imp id (fun hprefix => hprefix.trans (List.dropLast_prefix _))
  · rw [List.mem_singleton.mp hentry]
    exact Or.inr (List.prefix_refl _)

/-- A name that was decided before keeps its style. -/
lemma Decided.known (hs : s.Coherent r) (h : s.styleOf? n = some style) : s.Decided r s n style :=
  ⟨Grows.refl s, hs, h, fun _ h => Or.inl h⟩

/-- A type that no declaration covers. -/
lemma decideUnimported_spec (hs : s.Coherent r) (hp : n.isPackage = false) (hm : n.isMember = false)
    (hstyle : r.declared.styleFor n = .canonical) :
    s.Prepared r (s.decideUnimported r n).2 n (s.decideUnimported r n).1 := by
  obtain ⟨top, ht⟩ : ∃ top, n.topLevel? = some top := ⟨_, Name.topLevel?_of_not_isPackage hp⟩
  obtain ⟨s₁, g, he, ⟨hc, hold⟩ | ⟨hc, taken⟩⟩ := claim_cases s top.last top
  · have hd : s.decideUnimported r n = (.short, (s₁.require r top).use top) := by
      simp only [decideUnimported, ht, hc]
    have g₁ := (grows_require r top s₁).trans (grows_use top _)
    rw [hd]
    refine Prepared.of_styles_eq hs (g.trans g₁) ((styles_require r top s₁).trans he) ?_
    refine .short hp hm ht (Or.inr ⟨hstyle, List.mem_cons_self .., ?_⟩) (hold.mono g₁)
    exact visible_or_imported r top s₁
  · have hd : s.decideUnimported r n = (.canonical, s₁) := by
      simp only [decideUnimported, ht, hc]
    rw [hd]
    exact Prepared.of_styles_eq hs g he (.shortTaken hp hm ht (by rw [hstyle]; simp) taken)

lemma decideType_spec (hs : s.Coherent r) (hp : n.isPackage = false) (hm : n.isMember = false) :
    s.Prepared r (s.decideType r n).2 n (s.decideType r n).1 := by
  unfold decideType
  cases hstyle : r.declared.styleFor n with
  | canonical => exact decideUnimported_spec hs hp hm hstyle
  | last =>
      obtain ⟨s₁, g, he, ⟨hc, hold⟩ | ⟨hc, taken⟩⟩ := claim_cases s n.last n
      · have g₁ := grows_use n s₁
        simp only [hc]
        exact Prepared.of_styles_eq hs (g.trans g₁) he (.last hp hm hstyle (hold.mono g₁) (List.mem_cons_self ..))
      · simp only [hc]
        exact Prepared.of_styles_eq hs g he (.lastTaken hp hm hstyle taken)
  | short =>
      obtain ⟨top, ht⟩ : ∃ top, n.topLevel? = some top := ⟨_, Name.topLevel?_of_not_isPackage hp⟩
      obtain ⟨s₁, g, he, ⟨hc, hold⟩ | ⟨hc, taken⟩⟩ := claim_cases s top.last top
      · simp only [ht, hc]
        exact Prepared.of_styles_eq hs g he (.short hp hm ht (Or.inl hstyle) hold)
      · simp only [ht, hc]
        exact Prepared.of_styles_eq hs g he (.shortTaken hp hm ht (by rw [hstyle]; simp) taken)

lemma decidePlain_spec (hs : s.Coherent r) (hn : n.Conventional) (hm : n.isPackage = false → n.isMember = false) :
    s.Decided r (s.decidePlain r n).2 n (s.decidePlain r n).1 := by
  unfold decidePlain
  cases hknown : s.styleOf? n with
  | some style => exact Decided.known hs hknown
  | none =>
      cases hp : n.isPackage with
      | true => exact (Prepared.of_styles_eq hs (Grows.refl s) rfl (.package hp)).decided hn hknown
      | false => exact (decideType_spec hs hp (hm hp)).decided hn hknown

/-- A member that follows its type: the type is decided first. -/
lemma decideByType_eq (r : Resolver) (s : Assignment) {outer : Name} (he : n.enclosing? = some outer) :
    s.decideByType r n = ((s.decidePlain r outer).1.ofMember outer, (s.decidePlain r outer).2) := by
  simp only [decideByType, he]
  rcases s.decidePlain r outer with ⟨_ | _ | _, s'⟩ <;> rfl

lemma decideByType_spec (hs : s.Coherent r) (hn : n.Conventional) (hm : n.isMember = true)
    (hstatic : r.declared.hasStatic n = true → s.Taken n.last n) :
    s.Prepared r (s.decideByType r n).2 n (s.decideByType r n).1 := by
  obtain ⟨outer, he⟩ := hn.exists_enclosing hm
  have houter := hn.enclosing_of_member hm he
  have hplain := decidePlain_spec hs (hn.enclosing he) (fun _ => by rw [houter])
  rw [decideByType_eq r s he]
  refine ⟨hplain.grows, hplain.coherent, ?_, ?_⟩
  · exact .member hm (fun h => (hstatic h).mono hplain.grows) he hplain.recorded rfl
  · intro entry h
    have := hplain.added entry h
    rwa [houter] at this

lemma decideMember_spec (hs : s.Coherent r) (hn : n.Conventional) (hm : n.isMember = true) :
    s.Prepared r (s.decideMember r n).2 n (s.decideMember r n).1 := by
  unfold decideMember
  cases hstatic : r.declared.hasStatic n with
  | false => exact decideByType_spec hs hn hm (fun h => absurd h (by rw [hstatic]; simp))
  | true =>
      obtain ⟨s₁, g, he, ⟨hc, hold⟩ | ⟨hc, taken⟩⟩ := claim_cases s n.last n
      · simp only [hc, if_true]
        exact Prepared.of_styles_eq hs g he (.static hm hstatic hold)
      · have hp := decideByType_spec (hs.grow g he) hn hm (fun _ => taken)
        simp only [hc, if_true]
        exact ⟨g.trans hp.grows, hp.coherent, hp.settled, fun entry h => he ▸ hp.added entry h⟩

/-- **One decision keeps the state coherent and leaves the name decided.** -/
lemma decide_spec (hs : s.Coherent r) (hn : n.Conventional) :
    s.Decided r (s.decide r n).2 n (s.decide r n).1 := by
  unfold decide
  split
  · rename_i hplain
    refine decidePlain_spec hs hn (fun hp => ?_)
    simpa [hp] using hplain
  · rename_i hmember
    have hm : n.isMember = true := by simp_all
    cases hknown : s.styleOf? n with
    | some style => exact Decided.known hs hknown
    | none => exact (decideMember_spec hs hn hm).decided hn hknown

/-! ## The whole pass -/

/-- Before the pass nothing is decided, and the imports are those declared. -/
lemma initial_spec (r : Resolver) : (initial r).styles = [] ∧ (initial r).imports = r.declared := by
  have claims : ∀ (owners : List Name) (s : Assignment),
      (owners.foldl (fun s n => (s.claim n.last n).2) s).styles = s.styles ∧
      (owners.foldl (fun s n => (s.claim n.last n).2) s).imports = s.imports := by
    intro owners
    induction owners with
    | nil => exact fun s => ⟨rfl, rfl⟩
    | cons n owners ih =>
        intro s
        have hclaim : (s.claim n.last n).2.styles = s.styles ∧ (s.claim n.last n).2.imports = s.imports := by
          unfold claim
          split <;> exact ⟨rfl, rfl⟩
        obtain ⟨hstyles, himports⟩ := ih (s.claim n.last n).2
        exact ⟨hstyles.trans hclaim.1, himports.trans hclaim.2⟩
  exact claims _ _

/-- With no static declaration of a single name, only the declared types claim their names before the pass. -/
lemma initial_of_singleStatics_nil {r : Resolver} (h : r.declared.singleStatics = []) :
    initial r = r.declared.singleTypes.foldl (fun s n => (s.claim n.last n).2) { imports := r.declared } := by
  have hnone : r.declared.declarations.filter (·.kind == .singleStatic) = [] := by
    rw [List.filter_eq_nil_iff]
    intro i hi hkind
    rw [ImportTable.declarations, List.mem_mergeSort, ImportTable.mem_entries_iff, beq_iff_eq.mp hkind] at hi
    simp [ImportTable.targets, h] at hi
  simp only [initial, hnone, List.map_nil, List.append_nil]

/-- What the pass makes of a coherent state. -/
lemma foldl_decide_spec (r : Resolver) : ∀ (names : List Name) (s : Assignment), (∀ n ∈ names, n.Conventional) →
    s.Coherent r →
      s.Grows (names.foldl (fun s n => (s.decide r n).2) s) ∧
      (names.foldl (fun s n => (s.decide r n).2) s).Coherent r ∧
      ∀ n ∈ names, ∃ style, (names.foldl (fun s n => (s.decide r n).2) s).styleOf? n = some style
  | [], s, _, hs => ⟨Grows.refl s, hs, by simp⟩
  | n :: names, s, hn, hs => by
      have hd := decide_spec hs (hn n (List.mem_cons_self ..))
      obtain ⟨g, hs', hall⟩ := foldl_decide_spec r names (s.decide r n).2
        (fun m hm => hn m (List.mem_cons_of_mem _ hm)) hd.coherent
      refine ⟨hd.grows.trans g, hs', ?_⟩
      intro m hm
      rcases List.mem_cons.mp hm with rfl | hm
      · exact ⟨_, styleOf?_mono g hd.recorded⟩
      · exact hall m hm

end Assignment

/-- The decisions in that case, without the sorting of the declarations that stands in the way of computing them. -/
lemma Resolver.assign_of_singleStatics_nil (r : Resolver) (names : List Name) (h : r.declared.singleStatics = []) :
    r.assign names =
      let s : Assignment := names.foldl (fun s n => (s.decide r n).2)
        (r.declared.singleTypes.foldl (fun s n => (s.claim n.last n).2) { imports := r.declared })
      { imports := s.neededImports r, styles := s.styles } := by
  rw [assign, run, Assignment.initial_of_singleStatics_nil h]

/-- What the pass ends with: a state that has grown from the declared imports, each decision with its reason. -/
structure Assignment.Final (r : Resolver) (s : Assignment) : Prop where
  grown : (Assignment.initial r).Grows s
  coherent : s.Coherent r

namespace Resolver

lemma run_spec (r : Resolver) {names : List Name} (hnames : ∀ n ∈ names, n.Parsed) :
    (Assignment.initial r).Grows (r.run names) ∧ (r.run names).Coherent r ∧
      ∀ n ∈ names, ∃ style, (r.run names).styleOf? n = some style := by
  have hnil := (Assignment.initial_spec r).1
  refine Assignment.foldl_decide_spec r names _ (fun n h => (hnames n h).conventional) ⟨?_, ?_⟩
  · simp [hnil]
  · simp [hnil]

/-- **The pass.**  It adds to the declared imports, and every decision it records has its reason in the final state. -/
lemma run_final (r : Resolver) {names : List Name} (hnames : ∀ n ∈ names, n.Parsed) : (r.run names).Final r :=
  ⟨(r.run_spec hnames).1, (r.run_spec hnames).2.1⟩

/-- Every name that the pass is given is decided. -/
lemma run_decides (r : Resolver) {names : List Name} (hnames : ∀ n ∈ names, n.Parsed) {n : Name} (hn : n ∈ names) :
    ∃ style, (r.run names).styleOf? n = some style :=
  (r.run_spec hnames).2.2 n hn

end Resolver

namespace Assignment

variable {r : Resolver} {s : Assignment} {n : Name} {style : Style}

/-! ## Who may be written short -/

/-- The top-level type may be written without its package: it holds its simple name, and its package is declared on
demand, or it is noted as used and is visible, imported or declared by itself. -/
structure Stands (r : Resolver) (s : Assignment) (top : Name) : Prop where
  holds : s.Holds top.last top
  support : r.declared.hasPackage top.package = true ∨
    top ∈ s.used ∧ (r.isVisible top.package = true ∨ s.imports.hasSingleType top = true ∨
      r.declared.hasSingle top = true)

lemma Settled.not_isPackage (hn : n.Conventional) (h : s.Settled r n style) (hshort : style.isShortened = true) :
    n.isPackage = false := by
  have member : n.isMember = true → n.isPackage = false := by
    intro hm
    have := hn.member_inside hm
    exact beq_false_of_ne (by omega)
  cases h with
  | package => simp [Style.isShortened] at hshort
  | last hp => exact hp
  | lastTaken hp => exact hp
  | short hp => exact hp
  | shortTaken hp => exact hp
  | static hm => exact member hm
  | member hm => exact member hm

/-- Whatever is written by its last identifier holds it. -/
lemma Settled.holds_of_last (h : s.Settled r n .last) : s.Holds n.last n := by
  cases h with
  | last _ _ _ hold => exact hold
  | static _ _ hold => exact hold
  | member _ _ _ _ hstyle => exact absurd hstyle.symm (Style.ofMember_ne_last _ _)

/-- A top-level type that is written by its last identifier. -/
lemma Settled.stands_of_last (hn : n.Conventional) (htop : n.isTopLevel = true) (h : s.Settled r n .last) :
    s.Stands r n := by
  have hmember := Name.isMember_of_isTopLevel htop
  cases h with
  | last hp hm hs hold hu =>
      refine ⟨hold, Or.inr ⟨hu, Or.inr (Or.inr ?_)⟩⟩
      rcases ImportTable.allows_of_styleFor_eq_last hm hs with hsingle | ⟨hnested, -⟩
      · exact hsingle
      · have hsize := hn.isTopLevel_iff.mp htop
        simp only [Name.size] at hsize
        rw [Name.simpleNames, List.length_drop] at hnested
        omega
  | static hm => simp [hmember] at hm
  | member hm => simp [hmember] at hm

/-- **Whatever is written without its package has a top-level type that stands.**  The induction is on the number of
identifiers: the recorded style of the type around a member may itself be that of a member, of a type one further
out. -/
lemma Coherent.stands_of_short (hs : s.Coherent r) (hn : n.Conventional) (h : s.Settled r n .short) :
    ∃ top, n.topLevel? = some top ∧ s.Stands r top := by
  induction hsize : n.size using Nat.strongRecOn generalizing n with
  | ind size ih =>
      cases h with
      | @short top hp hm ht hsupport hold =>
          refine ⟨top, ht, hold, ?_⟩
          rcases hsupport with hstyle | ⟨-, hu, hv⟩
          · left
            rw [Name.package_topLevel ht]
            exact ImportTable.hasPackage_of_styleFor hstyle
          · exact Or.inr ⟨hu, hv.imp id Or.inl⟩
      | @member outer style _ hm _ he ho hstyle =>
          obtain ⟨m, hmem, hcan⟩ := exists_of_styleOf? ho
          have hmconv := hs.conventional hmem
          have hout := hn.enclosing he
          have hids := hmconv.identifiers_eq hout.toWellFormed hcan
          have htop : m.topLevel? = n.topLevel? := by
            rw [hmconv.topLevel?_eq hout hcan, hn.topLevel?_enclosing hm he]
          cases style with
          | canonical => simp [Style.ofMember] at hstyle
          | short =>
              have hlt : m.size < size := by
                have := hn.member_inside hm
                rw [← hsize, Name.size, hids, hn.enclosing_of_member hm he, List.length_dropLast]
                simp only [Name.size] at this ⊢
                omega
              obtain ⟨top, ht, hstands⟩ := ih _ hlt hmconv (hs.settled hmem) rfl
              exact ⟨top, htop ▸ ht, hstands⟩
          | last =>
              have htoplevel : outer.isTopLevel = true := by
                by_contra hnot
                simp [Style.ofMember, hnot] at hstyle
              have hmtop : m.isTopLevel = true := by
                rw [hmconv.isTopLevel_iff, Name.size, hids, hmconv.level_eq_of_canonical hout hcan]
                exact hout.isTopLevel_iff.mp htoplevel
              refine ⟨m, ?_, (hs.settled hmem).stands_of_last hmconv hmtop⟩
              rw [← htop]
              exact Name.topLevel?_of_isTopLevel hmtop

/-- **The owner of a shortened spelling.**  A shortened name is its owner with identifiers added, and these are what
is written after the simple name that the owner holds. -/
lemma Coherent.owner (hs : s.Coherent r) (h : (n, style) ∈ s.styles) (hshort : style.isShortened = true) :
    ∃ owner simple rest, owner.Conventional ∧ s.Holds simple owner ∧ style.parts n = simple :: rest ∧
      n.identifiers = owner.identifiers ++ rest := by
  have hn := hs.conventional h
  have hsettled := hs.settled h
  have hp := hsettled.not_isPackage hn hshort
  cases style with
  | canonical => simp [Style.isShortened] at hshort
  | last => exact ⟨n, n.last, [], hn, hsettled.holds_of_last, by simp [Style.parts, hp], by simp⟩
  | short =>
      obtain ⟨top, ht, hstands⟩ := hs.stands_of_short hn hsettled
      have hhead := Name.head?_simpleNames hn.toWellFormed ht
      refine ⟨top, top.last, n.simpleNames.tail, hn.topLevel ht, hstands.holds, ?_, ?_⟩
      · simp only [Style.parts, hp, Bool.false_eq_true, if_false]
        exact List.eq_cons_of_mem_head? hhead
      · obtain ⟨-, rfl⟩ := Name.topLevel?_eq_some ht
        simp only [Name.simpleNames, List.tail_drop, List.take_append_drop]

/-- **A rival of the owner is not written through the simple name.**  What belongs to another top-level type of the
same simple name is written in full, or by a last identifier of its own. -/
lemma Coherent.rival (hs : s.Coherent r) {top m other : Name} (htop : top.Conventional)
    (hlevel : top.isTopLevel = true) (hold : s.Holds top.last top) (hm : m.Conventional)
    (hother : m.topLevel? = some other) (hne : other.canonical ≠ top.canonical)
    (hlast : other.last = top.last) (hstyle : s.styleOf? m = some style) :
    style = .canonical ∨ style = .last ∧ m.last ≠ top.last := by
  -- the decision for `m` may have been recorded under a name with the same canonical text
  obtain ⟨e, he, hcan⟩ := exists_of_styleOf? hstyle
  have heconv := hs.conventional he
  cases style with
  | canonical => exact Or.inl rfl
  | short =>
      exfalso
      obtain ⟨top', htop', hstands⟩ := hs.stands_of_short heconv (hs.settled he)
      rw [heconv.topLevel?_eq hm hcan, hother, Option.some.injEq] at htop'
      subst htop'
      exact hne ((hlast ▸ hstands.holds).canonical_eq hold)
  | last =>
      refine Or.inr ⟨rfl, fun heq => hne ?_⟩
      have helast : e.last = top.last := by
        rw [Name.last, heconv.identifiers_eq hm.toWellFormed hcan]
        exact heq
      have hcan' : m.canonical = top.canonical := by
        rw [← hcan]
        exact (helast ▸ (hs.settled he).holds_of_last).canonical_eq hold
      rw [hm.topLevel?_eq htop hcan', Name.topLevel?_of_isTopLevel hlevel, Option.some.injEq] at hother
      rw [hother]

end Assignment

end JavaSource
