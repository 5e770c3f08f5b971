import Mathlib.Logic.Relation
import JavaSource.Proofs.Import.Pass

/-!
# The steps of the pass

A decision is put together from four steps: a simple name is claimed, a type that holds its simple name is noted as
used, a top-level type that no declaration covers is imported if it must be, and a decision is recorded.  `Step` lists
them with what is known when they are taken, and `decide_trail` takes every decision apart into them.

**Invariants.**  So an invariant of the pass has to be checked for these steps only (`Resolver.run_invariant`).  Two
are proved here.  Whatever is used holds its simple name (`Resolver.run_used`).  And whatever the pass adds to the
imports is a top-level type that holds its simple name, is used, and lies in a package that is not declared on demand
(`Resolver.run_imports`).

**Growth and totality.**  The steps know what they know because names are divided by convention.  That no decision takes
anything back (`grows_decide`), and that every name of the list is decided (`Resolver.isSome_get?_assign`), needs no such
assumption.
-/

namespace JavaSource

namespace Assignment

variable {r : Resolver} {s s' : Assignment} {n top : Name}

/-! ## Claims, looked up -/

lemma lookup_claim (s : Assignment) (simple : Text) (owner : Name) (x : Text) :
    (s.claim simple owner).2.claims.lookup x = (s.claims.lookup x).or (if x = simple then some owner else none) := by
  unfold claim
  split
  · rename_i holder hlook
    by_cases hx : x = simple
    · subst hx
      simp [hlook]
    · simp [hx]
  · by_cases hx : x = simple
    · simp [hx, List.lookup_append]
    · simp [hx, List.lookup_append, List.lookup_cons, beq_false_of_ne hx]

lemma fst_claim (s : Assignment) (simple : Text) (owner : Name) :
    (s.claim simple owner).1 = ((s.claims.lookup simple).getD owner).same owner := by
  have hself : owner.same owner = true := Name.same_iff.mpr rfl
  unfold claim
  split
  · rename_i holder hlook
    simp [hlook]
  · rename_i hlook
    simp [hlook, hself]

/-! ## Decisions, by declaration -/

lemma decideType_of_last (s : Assignment) (h : r.declared.styleFor n = .last) : s.decideType r n =
    if (s.claim n.last n).1 then (.last, (s.claim n.last n).2.use n) else (.canonical, (s.claim n.last n).2) := by
  rcases hc : s.claim n.last n with ⟨_ | _, s'⟩ <;> simp [decideType, h, hc]

lemma decideType_of_short (s : Assignment) (h : r.declared.styleFor n = .short) (ht : n.topLevel? = some top) :
    s.decideType r n = if (s.claim top.last top).1 then (.short, (s.claim top.last top).2)
      else (.canonical, (s.claim top.last top).2) := by
  rcases hc : s.claim top.last top with ⟨_ | _, s'⟩ <;> simp [decideType, h, ht, hc]

lemma decideType_of_canonical (s : Assignment) (h : r.declared.styleFor n = .canonical)
    (ht : n.topLevel? = some top) : s.decideType r n =
      if (s.claim top.last top).1 then (.short, ((s.claim top.last top).2.require r top).use top)
      else (.canonical, (s.claim top.last top).2) := by
  rcases hc : s.claim top.last top with ⟨_ | _, s'⟩ <;> simp [decideType, decideUnimported, h, ht, hc]

lemma decideMember_of_static (s : Assignment) (h : r.declared.hasStatic n = true) : s.decideMember r n =
    if (s.claim n.last n).1 then (.last, (s.claim n.last n).2) else (s.claim n.last n).2.decideByType r n := by
  rcases hc : s.claim n.last n with ⟨_ | _, s'⟩ <;> simp [decideMember, h, hc]

/-! ## Taking a decision apart -/

/-- One step of a decision. -/
inductive Step (r : Resolver) : Assignment → Assignment → Prop
  | claim (s : Assignment) (simple : Text) (owner : Name) : Step r s (s.claim simple owner).2
  | use {s : Assignment} {n : Name} (hn : n.Conventional) (hold : s.Holds n.last n) : Step r s (s.use n)
  /-- A top-level type is supplied for a type that the declarations do not cover. -/
  | supply {s : Assignment} {n top : Name} (hn : n.Conventional) (ht : n.topLevel? = some top)
      (hs : r.declared.styleFor n = .canonical) (hold : s.Holds top.last top) :
      Step r s ((s.require r top).use top)
  | record (s : Assignment) (n : Name) (style : Style) : Step r s (s.record n style)

/-- Steps one after the other. -/
abbrev Trail (r : Resolver) : Assignment → Assignment → Prop := Relation.ReflTransGen (Step r)

@[simp] lemma styles_claim (s : Assignment) (simple : Text) (owner : Name) :
    (s.claim simple owner).2.styles = s.styles := by
  unfold claim
  split <;> rfl

@[simp] lemma imports_claim (s : Assignment) (simple : Text) (owner : Name) :
    (s.claim simple owner).2.imports = s.imports := by
  unfold claim
  split <;> rfl

@[simp] lemma used_claim (s : Assignment) (simple : Text) (owner : Name) :
    (s.claim simple owner).2.used = s.used := by
  unfold claim
  split <;> rfl

@[simp] lemma claims_require (r : Resolver) (top : Name) (s : Assignment) :
    (s.require r top).claims = s.claims := by
  unfold require
  split <;> rfl

lemma grows_claim (s : Assignment) (simple : Text) (owner : Name) : s.Grows (s.claim simple owner).2 := by
  obtain ⟨s', g, -, ⟨hc, -⟩ | ⟨hc, -⟩⟩ := claim_cases s simple owner
  · rw [hc]
    exact g
  · rw [hc]
    exact g

/-- What `claim` answers is what the state says afterwards. -/
lemma holds_of_claim {simple : Text} {owner : Name} (h : s.claim simple owner = (true, s')) :
    s'.Holds simple owner := by
  obtain ⟨s₁, -, -, ⟨hc, hold⟩ | ⟨hc, -⟩⟩ := claim_cases s simple owner
  · rw [hc] at h
    cases h
    exact hold
  · rw [hc] at h
    cases h

/-- What every step keeps, steps keep. -/
lemma keeps {R : Assignment → Assignment → Prop} {P : Assignment → Prop} (h : Relation.ReflTransGen R s s') (hs : P s)
    (hstep : ∀ {s s' : Assignment}, R s s' → P s → P s') : P s' := by
  induction h with
  | refl => exact hs
  | tail _ step ih => exact hstep step ih

lemma trail_claim {simple : Text} {owner : Name} {b : Bool} (h : s.claim simple owner = (b, s')) :
    Trail r s s' := by
  have := Step.claim (r := r) s simple owner
  rw [h] at this
  exact Relation.ReflTransGen.single this

lemma decideUnimported_trail (hn : n.Conventional) (hs : r.declared.styleFor n = .canonical) :
    Trail r s (s.decideUnimported r n).2 := by
  unfold decideUnimported
  split
  · exact Relation.ReflTransGen.refl
  · rename_i top ht
    split
    · rename_i hc
      exact trail_claim hc
    · rename_i hc
      exact (trail_claim hc).tail (Step.supply hn ht hs (holds_of_claim hc))

lemma decideType_trail (hn : n.Conventional) : Trail r s (s.decideType r n).2 := by
  unfold decideType
  split
  · split
    · rename_i hc
      exact trail_claim hc
    · rename_i hc
      exact (trail_claim hc).tail (Step.use hn (holds_of_claim hc))
  · split
    · exact Relation.ReflTransGen.refl
    · split
      · rename_i hc
        exact trail_claim hc
      · rename_i hc
        exact trail_claim hc
  · rename_i hs
    exact decideUnimported_trail hn hs

lemma decidePlain_trail (hn : n.Conventional) : Trail r s (s.decidePlain r n).2 := by
  unfold decidePlain
  split
  · exact Relation.ReflTransGen.refl
  · refine Relation.ReflTransGen.tail ?_ (Step.record _ n _)
    split
    · exact Relation.ReflTransGen.refl
    · exact decideType_trail hn

lemma decideByType_trail (hn : n.Conventional) : Trail r s (s.decideByType r n).2 := by
  unfold decideByType
  split
  · exact Relation.ReflTransGen.refl
  · rename_i outer he
    have htrail := decidePlain_trail (r := r) (s := s) (hn.enclosing he)
    split
    · rename_i hd
      rwa [hd] at htrail
    · rename_i hd
      rwa [hd] at htrail
    · rename_i hd
      rwa [hd] at htrail

lemma decideMember_trail (hn : n.Conventional) : Trail r s (s.decideMember r n).2 := by
  unfold decideMember
  split
  · split
    · rename_i hc
      exact trail_claim hc
    · rename_i hc
      exact (trail_claim hc).trans (decideByType_trail hn)
  · exact decideByType_trail hn

/-- **Every decision is made of steps.** -/
lemma decide_trail (hn : n.Conventional) : Trail r s (s.decide r n).2 := by
  unfold decide
  split
  · exact decidePlain_trail hn
  · split
    · exact Relation.ReflTransGen.refl
    · exact (decideMember_trail hn).tail (Step.record _ n _)

lemma foldl_decide_trail (r : Resolver) : ∀ (names : List Name) (s : Assignment), (∀ n ∈ names, n.Conventional) →
    Trail r s (names.foldl (fun s n => (s.decide r n).2) s)
  | [], _, _ => Relation.ReflTransGen.refl
  | n :: names, _, hn =>
      (decide_trail (hn n (List.mem_cons_self ..))).trans
        (foldl_decide_trail r names _ fun m hm => hn m (List.mem_cons_of_mem _ hm))

end Assignment

namespace Resolver

/-- **Invariants of the pass**: what holds before it and is kept by every step holds after it. -/
lemma run_invariant (r : Resolver) {names : List Name} (hnames : ∀ n ∈ names, n.Parsed) {P : Assignment → Prop}
    (hinit : P (Assignment.initial r)) (hstep : ∀ {s s' : Assignment}, Assignment.Step r s s' → P s → P s') :
    P (r.run names) :=
  Assignment.keeps (Assignment.foldl_decide_trail r names _ fun n h => (hnames n h).conventional) hinit hstep

end Resolver

/-! ## Growth, and what the pass records -/

namespace Assignment

variable {r : Resolver} {s s' : Assignment} {n : Name}

lemma styles_decideType (r : Resolver) (n : Name) (s : Assignment) : (s.decideType r n).2.styles = s.styles := by
  cases hstyle : r.declared.styleFor n with
  | last =>
      rw [decideType_of_last s hstyle]
      split <;> simp [use]
  | short =>
      cases ht : n.topLevel? with
      | none => simp [decideType, hstyle, ht]
      | some top =>
          rw [decideType_of_short s hstyle ht]
          split <;> simp
  | canonical =>
      cases ht : n.topLevel? with
      | none => simp [decideType, decideUnimported, hstyle, ht]
      | some top =>
          rw [decideType_of_canonical s hstyle ht]
          split <;> simp [use, styles_require]

lemma grows_decideType (r : Resolver) (n : Name) (s : Assignment) : s.Grows (s.decideType r n).2 := by
  cases hstyle : r.declared.styleFor n with
  | last =>
      rw [decideType_of_last s hstyle]
      split
      · exact (grows_claim s n.last n).trans (grows_use n _)
      · exact grows_claim s n.last n
  | short =>
      cases ht : n.topLevel? with
      | none =>
          simp only [decideType, hstyle, ht]
          exact Grows.refl s
      | some top =>
          rw [decideType_of_short s hstyle ht]
          split <;> exact grows_claim s top.last top
  | canonical =>
      cases ht : n.topLevel? with
      | none =>
          simp only [decideType, decideUnimported, hstyle, ht]
          exact Grows.refl s
      | some top =>
          rw [decideType_of_canonical s hstyle ht]
          split
          · exact ((grows_claim s top.last top).trans (grows_require r top _)).trans (grows_use top _)
          · exact grows_claim s top.last top

lemma grows_decidePlain (r : Resolver) (n : Name) (s : Assignment) : s.Grows (s.decidePlain r n).2 := by
  unfold decidePlain
  split
  · exact Grows.refl s
  · refine Grows.trans ?_ (grows_record n _ _)
    split
    · exact Grows.refl s
    · exact grows_decideType r n s

lemma grows_decideByType (r : Resolver) (n : Name) (s : Assignment) : s.Grows (s.decideByType r n).2 := by
  cases he : n.enclosing? with
  | none =>
      simp only [decideByType, he]
      exact Grows.refl s
  | some outer =>
      rw [decideByType_eq r s he]
      exact grows_decidePlain r outer s

lemma grows_decideMember (r : Resolver) (n : Name) (s : Assignment) : s.Grows (s.decideMember r n).2 := by
  cases hstatic : r.declared.hasStatic n with
  | false =>
      simp only [decideMember, hstatic, Bool.false_eq_true, if_false]
      exact grows_decideByType r n s
  | true =>
      rw [decideMember_of_static s hstatic]
      split
      · exact grows_claim s n.last n
      · exact (grows_claim s n.last n).trans (grows_decideByType r n _)

/-- **No decision takes anything back.** -/
lemma grows_decide (r : Resolver) (n : Name) (s : Assignment) : s.Grows (s.decide r n).2 := by
  unfold decide
  split
  · exact grows_decidePlain r n s
  · split
    · exact Grows.refl s
    · exact (grows_decideMember r n s).trans (grows_record n _ _)

lemma grows_foldl_decide (r : Resolver) : ∀ (names : List Name) (s : Assignment),
    s.Grows (names.foldl (fun s n => (s.decide r n).2) s)
  | [], s => Grows.refl s
  | n :: names, s => (grows_decide r n s).trans (grows_foldl_decide r names (s.decide r n).2)

/-- Nothing recorded is withdrawn, and the name is recorded. -/
structure Records (s s' : Assignment) (n : Name) : Prop where
  styles : s.styles <+: s'.styles
  recorded : (s'.styleOf? n).isSome = true

lemma Records.record (h : s.styles <+: s'.styles) (n : Name) (style : Style) : s.Records (s'.record n style) n := by
  refine ⟨h.trans (List.prefix_append _ _), ?_⟩
  have hself : n.same n = true := Name.same_iff.mpr rfl
  simp [styleOf?, Style.decided?, Assignment.record, hself]

lemma Records.known {style : Style} (h : s.styleOf? n = some style) : s.Records s n :=
  ⟨List.prefix_refl _, by rw [h]; rfl⟩

lemma decidePlain_records (r : Resolver) (n : Name) (s : Assignment) : s.Records (s.decidePlain r n).2 n := by
  unfold decidePlain
  cases hknown : s.styleOf? n with
  | some style => exact Records.known hknown
  | none =>
      refine Records.record ?_ n _
      split
      · exact List.prefix_refl _
      · exact (grows_decideType r n s).styles

lemma decide_records (r : Resolver) (n : Name) (s : Assignment) : s.Records (s.decide r n).2 n := by
  unfold decide
  split
  · exact decidePlain_records r n s
  · cases hknown : s.styleOf? n with
    | some style => exact Records.known hknown
    | none => exact Records.record (grows_decideMember r n s).styles n _

lemma foldl_decide_records (r : Resolver) : ∀ (names : List Name) (s : Assignment),
    s.styles <+: (names.foldl (fun s n => (s.decide r n).2) s).styles ∧
      ∀ n ∈ names, ((names.foldl (fun s n => (s.decide r n).2) s).styleOf? n).isSome = true
  | [], s => ⟨List.prefix_refl _, by simp⟩
  | n :: names, s => by
      have hstep := decide_records r n s
      obtain ⟨hstyles, hall⟩ := foldl_decide_records r names (s.decide r n).2
      refine ⟨hstep.styles.trans hstyles, List.forall_mem_cons.mpr ⟨?_, hall⟩⟩
      obtain ⟨style, hstyle⟩ := Option.isSome_iff_exists.mp hstep.recorded
      obtain ⟨entry, hfind, -⟩ := Option.map_eq_some_iff.mp hstyle
      have hfind' := hstyles.find?_eq_some hfind
      simp only [List.foldl_cons, styleOf?, Style.decided?, hfind', Option.map_some, Option.isSome_some]

end Assignment

/-- **Every name is decided**, however it is divided. -/
lemma Resolver.isSome_get?_assign (r : Resolver) {names : List Name} {n : Name} (hn : n ∈ names) :
    ((r.assign names).get? n).isSome = true :=
  (Assignment.foldl_decide_records r names _).2 n hn

/-! ## What the pass uses -/

namespace Assignment

variable {r : Resolver} {s s' : Assignment}

lemma used_require (r : Resolver) (top : Name) (s : Assignment) : (s.require r top).used = s.used := by
  unfold require
  split <;> rfl

/-- Whatever is used holds its simple name. -/
def Supported (s : Assignment) : Prop := ∀ n ∈ s.used, n.Conventional ∧ s.Holds n.last n

lemma Supported.grow (h : s.Supported) (g : s.Grows s') (hu : s'.used = s.used) : s'.Supported :=
  fun n hn => ⟨(h n (hu ▸ hn)).1, (h n (hu ▸ hn)).2.mono g⟩

lemma Supported.use (h : s.Supported) {n : Name} (hn : n.Conventional) (hold : s.Holds n.last n) :
    (s.use n).Supported := by
  intro m hm
  rcases List.mem_cons.mp hm with rfl | hm
  · exact ⟨hn, hold⟩
  · exact h m hm

lemma Step.supported (step : Step r s s') (h : s.Supported) : s'.Supported := by
  cases step with
  | claim simple owner => exact h.grow (grows_claim s simple owner) (used_claim s simple owner)
  | use hn hold => exact h.use hn hold
  | record n style => exact h.grow (grows_record n style s) rfl
  | @supply n top hn ht hs hold =>
      have g := grows_require r top s
      exact (h.grow g (used_require r top s)).use (hn.topLevel ht) (hold.mono g)

lemma used_initial (r : Resolver) : (initial r).used = [] := by
  have claims : ∀ (owners : List Name) (s : Assignment),
      (owners.foldl (fun s n => (s.claim n.last n).2) s).used = s.used := by
    intro owners
    induction owners with
    | nil => exact fun _ => rfl
    | cons n owners ih =>
        intro s
        rw [List.foldl_cons, ih, used_claim]
  exact claims _ _

end Assignment

/-- **Whatever the pass uses holds its simple name.** -/
lemma Resolver.run_used (r : Resolver) {names : List Name} (hnames : ∀ n ∈ names, n.Parsed) :
    (r.run names).Supported :=
  r.run_invariant hnames (fun _ hn => by simp [Assignment.used_initial] at hn) (fun step h => step.supported h)

/-! ## What the pass imports -/

namespace Assignment

variable {r : Resolver} {s s' : Assignment}

/-- What is known of a type that the pass has added to the imports. -/
structure Added (r : Resolver) (s : Assignment) (top : Name) : Prop where
  conventional : top.Conventional
  isTopLevel : top.isTopLevel = true
  holds : s.Holds top.last top
  used : top ∈ s.used
  uncovered : r.declared.allowsShort top = false

lemma Added.mono {top : Name} (g : s.Grows s') (h : s.Added r top) : s'.Added r top :=
  ⟨h.conventional, h.isTopLevel, h.holds.mono g, g.used h.used, h.uncovered⟩

/-- Every import is declared or added. -/
def Accounted (r : Resolver) (s : Assignment) : Prop :=
  ∀ n ∈ s.imports.singleTypes, n ∈ r.declared.singleTypes ∨ s.Added r n

lemma Accounted.grow (h : s.Accounted r) (g : s.Grows s') (hi : s'.imports = s.imports) : s'.Accounted r :=
  fun n hn => (h n (hi ▸ hn)).imp id (Added.mono g)

lemma imports_require (r : Resolver) (top : Name) (s : Assignment) : (s.require r top).imports =
    if r.isVisible top.package || s.imports.hasSingleType top then s.imports
    else { s.imports with singleTypes := s.imports.singleTypes ++ [top] } := by
  unfold require
  split
  · rfl
  · rename_i hnot
    have hnew : top.isIn s.imports.singleTypes = false := by
      simp only [ImportTable.hasSingleType, Bool.or_eq_true, not_or] at hnot
      simpa using hnot.2
    simp [ImportTable.add, Name.insertInto, hnew]

/-- Whether the types of its package are declared on demand is the same for a type and its top-level type. -/
lemma allowsShort_topLevel {t : ImportTable} {n top : Name} (h : n.topLevel? = some top) :
    t.allowsShort top = t.allowsShort n := by
  have hpackage := Name.package_topLevel h
  obtain ⟨-, rfl⟩ := Name.topLevel?_eq_some h
  simp only [ImportTable.allowsShort, hpackage]

lemma Step.accounted (step : Step r s s') (h : s.Accounted r) : s'.Accounted r := by
  cases step with
  | claim simple owner => exact h.grow (grows_claim s simple owner) (imports_claim s simple owner)
  | use => exact h.grow (grows_use _ s) rfl
  | record n style => exact h.grow (grows_record n style s) rfl
  | @supply n top hn ht hs hold =>
      have g := (grows_require r top s).trans (grows_use top (s.require r top))
      have hadded : ((s.require r top).use top).Added r top :=
        ⟨hn.topLevel ht, hn.isTopLevel_topLevel ht, hold.mono g, List.mem_cons_self ..,
          (allowsShort_topLevel ht).trans (ImportTable.styleFor_eq_canonical_iff.mp hs).2⟩
      intro m hm
      have hcases : m ∈ s.imports.singleTypes ∨ m = top := by
        simp only [Assignment.use, imports_require] at hm
        split at hm
        · exact Or.inl hm
        · simpa using hm
      rcases hcases with hm | rfl
      · exact (h m hm).imp id (Added.mono g)
      · exact Or.inr hadded

end Assignment

/-- **What the pass imports.**  Every single-type import is declared, or a top-level type that holds its simple name, is
used, and lies in no package that is declared on demand. -/
lemma Resolver.run_imports (r : Resolver) {names : List Name} (hnames : ∀ n ∈ names, n.Parsed) :
    (r.run names).Accounted r :=
  r.run_invariant hnames
    (fun _ hn => Or.inl (by rwa [(Assignment.initial_spec r).2] at hn))
    (fun step h => step.accounted h)

end JavaSource
