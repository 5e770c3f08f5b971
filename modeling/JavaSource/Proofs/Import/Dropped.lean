import JavaSource.Proofs.Import.Rerun

/-!
# Dropped declarations

Under pruning, a declared type that is not needed is dropped after the pass.  But it has claimed its simple name before
the pass, and that is not undone: a name that was refused its simple name for the sake of a dropped declaration stays
written in full, without any import that would explain it.  Run again under the returned imports, the pass shortens it.

**When it does not matter.**  If every simple name that is asked for belongs, among the declared types, to one that is
kept (`Resolver.Steady`), then running the pass again changes nothing.

**Why nothing less will do.**  For a list of top-level types of named packages this condition is also necessary, as long
as no member claims a simple name by itself.  All types of the simple name of a dropped declaration are refused it in
the first run, and the second run grants it to the first of them (`Assignment.lookup_foldl_of_refused`).
-/

namespace JavaSource

/-- The text of a decided name. -/
def Decisions.spelling? (d : Decisions) (n : Name) : Option Text := (d.get? n).map fun style => style.apply n

/-- Running the pass again, with the returned imports declared, gives the same imports and spells every name the
same. -/
def Resolver.IsStable (r : Resolver) (names : List Name) : Prop :=
  let second := Resolver.assign { r with declared := (r.assign names).imports } names
  second.imports = (r.assign names).imports ∧
    ∀ n ∈ names, ∃ text, (r.assign names).spelling? n = some text ∧ second.spelling? n = some text

/-! ## Lists of top-level types -/

/-- A top-level type of a named package is written in full by no other style. -/
lemma Style.eq_canonical_of_apply_eq {n : Name} (hn : n.WellFormed) (htop : n.isTopLevel = true) (hlevel : 0 < n.level)
    {s : Style} (h : s.apply n = Style.canonical.apply n) : s = .canonical := by
  have hsize := hn.isTopLevel_iff.mp htop
  have hp : n.isPackage = false := beq_false_of_ne (by omega)
  have hparts := congrArg List.length ((Style.apply_eq_apply_iff hn hn s .canonical).mp h)
  cases s with
  | canonical => rfl
  | short =>
      simp only [parts, hp, Bool.false_eq_true, if_false, Name.simpleNames, List.length_drop] at hparts
      simp only [Name.size] at hsize
      omega
  | last =>
      simp only [parts, hp, Bool.false_eq_true, if_false, List.length_singleton] at hparts
      simp only [Name.size] at hsize
      omega

namespace Assignment

variable {r : Resolver} {s : Assignment} {n : Name}

/-- A top-level type asks for its own simple name, however it is declared, and is written in full only if it is
refused. -/
lemma decideType_of_isTopLevel (r : Resolver) (s : Assignment) (htop : n.isTopLevel = true) :
    (s.decideType r n).2.claims = (s.claim n.last n).2.claims ∧
      ((s.claim n.last n).1 = true → (s.decideType r n).1 ≠ .canonical) := by
  have ht := Name.topLevel?_of_isTopLevel htop
  cases hstyle : r.declared.styleFor n with
  | last =>
      rw [decideType_of_last s hstyle]
      split <;> simp_all [use]
  | short =>
      rw [decideType_of_short s hstyle ht]
      split <;> simp_all
  | canonical =>
      rw [decideType_of_canonical s hstyle ht]
      split <;> simp_all [use]

/-- **A simple name that is free stays free, if everybody who asks for it ends up written in full.** -/
lemma lookup_foldl_of_refused (r : Resolver) {x : Text} : ∀ (names : List Name) (s : Assignment),
    (∀ n ∈ names, n.Conventional ∧ n.isTopLevel = true) → s.Coherent r → s.claims.lookup x = none →
      (∀ n ∈ names, n.last = x →
        (names.foldl (fun s n => (s.decide r n).2) s).styleOf? n = some .canonical) →
      (names.foldl (fun s n => (s.decide r n).2) s).claims.lookup x = none
  | [], _, _, _, hfree, _ => hfree
  | n :: names, s, hn, hs, hfree, hrefused => by
      obtain ⟨hconv, htop⟩ := hn n (List.mem_cons_self ..)
      have hd := decide_spec hs hconv
      have g := grows_foldl_decide r names (s.decide r n).2
      refine lookup_foldl_of_refused r names _ (fun m hm => hn m (List.mem_cons_of_mem _ hm)) hd.coherent ?_
        fun m hm => hrefused m (List.mem_cons_of_mem _ hm)
      have hm := Name.isMember_of_isTopLevel htop
      have hsize := hconv.isTopLevel_iff.mp htop
      have hp : n.isPackage = false := beq_false_of_ne (by omega)
      cases hknown : s.styleOf? n with
      | some style => simpa [decide, decidePlain, hm, hknown] using hfree
      | none =>
          have hdecide : s.decide r n = ((s.decideType r n).1, (s.decideType r n).2.record n (s.decideType r n).1) := by
            simp [decide, decidePlain, hm, hp, hknown]
          obtain ⟨hclaims, hgranted⟩ := decideType_of_isTopLevel r s htop
          have hlookup : (s.decide r n).2.claims.lookup x = if x = n.last then some n else none := by
            rw [hdecide]
            simp only [record, hclaims, lookup_claim, hfree, Option.none_or]
          rw [hlookup]
          split
          · rename_i hx
            exfalso
            -- the simple name is granted, so the decision is not to write the name in full
            have hstyle := styleOf?_mono g hd.recorded
            rw [List.foldl_cons] at hrefused
            rw [hrefused n (List.mem_cons_self ..) hx.symm, Option.some.injEq, hdecide] at hstyle
            refine hgranted ?_ hstyle.symm
            rw [fst_claim, ← hx, hfree]
            exact Name.same_iff.mpr rfl
          · rfl

/-- A top-level type that is written in full was refused its simple name. -/
lemma Settled.taken_of_isTopLevel (h : s.Settled r n .canonical) (hn : n.WellFormed) (htop : n.isTopLevel = true) :
    s.Taken n.last n := by
  have hm := Name.isMember_of_isTopLevel htop
  have hsize := hn.isTopLevel_iff.mp htop
  cases h with
  | package hp =>
      have := Name.isPackage_iff.mp hp
      omega
  | lastTaken _ _ _ taken => exact taken
  | shortTaken _ _ ht _ taken =>
      rw [Name.topLevel?_of_isTopLevel htop, Option.some.injEq] at ht
      rw [ht]
      exact taken
  | member hmember => simp [hm] at hmember

/-! ## The simple name of a dropped declaration -/

section Dropped

variable {final : Assignment} {x : Text} {first : Name}

/-- In the first run the declaration holds the simple name to the end. -/
lemma Ended.holds_of_first (e : Ended r final) (hfirst : r.declared.singleTypes.find? (·.last == x) = some first) :
    final.Holds x first := by
  refine ⟨first, e.grown.claims.lookup_eq_some ?_, rfl⟩
  rw [lookup_initial, hfirst, Option.some_or]

/-- So no top-level type of that simple name is shortened: the declared type itself would have kept its declaration. -/
lemma Ended.styleOf?_of_dropped (e : Ended r final)
    (hfirst : r.declared.singleTypes.find? (·.last == n.last) = some first)
    (hdropped : (final.neededImports r).hasSingleType first = false) (hn : n.Conventional)
    (htop : n.isTopLevel = true) {style : Style} (h : final.styleOf? n = some style) : style = .canonical := by
  obtain ⟨m, hmem, hcan⟩ := exists_of_styleOf? h
  have hmconv := e.coherent.conventional hmem
  have hmtop : m.isTopLevel = true := (hmconv.isTopLevel_eq hn hcan).trans htop
  have hmember := Name.isMember_of_isTopLevel hmtop
  have hholds := e.holds_of_first hfirst
  rw [← hmconv.last_eq hn hcan] at hholds
  have hdeclared : m.canonical = first.canonical → r.declared.hasSingleType m = true := fun hsame =>
    Name.isIn_iff.mpr ⟨first, List.mem_of_find?_eq_some hfirst, hsame.symm⟩
  cases e.coherent.settled hmem with
  | package => rfl
  | lastTaken => rfl
  | shortTaken => rfl
  | last _ _ _ hold hu =>
      exfalso
      have hsame := hold.canonical_eq hholds
      obtain ⟨kept, hkept, hcan'⟩ :=
        Name.isIn_iff.mp (hasSingleType_neededImports (r := r) (e.hasSingleType (hdeclared hsame)) hu)
      have : (final.neededImports r).hasSingleType first = true := Name.isIn_iff.mpr ⟨kept, hkept, hcan'.trans hsame⟩
      rw [this] at hdropped
      exact Bool.noConfusion hdropped
  | short _ _ ht hs hold =>
      exfalso
      rw [Name.topLevel?_of_isTopLevel hmtop, Option.some.injEq] at ht
      subst ht
      have hlast := ImportTable.styleFor_eq_last_iff.mpr
        (ImportTable.allowsLast_of_hasSingleType hmember (hdeclared (hold.canonical_eq hholds)))
      rcases hs with hs | ⟨hs, -⟩
      · rw [hlast] at hs
        cases hs
      · rw [hlast] at hs
        cases hs
  | static hm => simp [hmember] at hm
  | member hm => simp [hmember] at hm

/-- The second run begins with the simple name free. -/
lemma Ended.lookup_initial_of_dropped (e : Ended r final) (hused : final.Supported)
    (hstatics : r.declared.singleStatics = [])
    (hfirst : r.declared.singleTypes.find? (·.last == x) = some first)
    (hdropped : (final.neededImports r).hasSingleType first = false) :
    (initial (r.after final)).claims.lookup x = none := by
  have hmembers : (r.after final).declared.staticMembers = [] := by
    rw [e.staticMembers_after, List.eq_nil_iff_forall_not_mem]
    intro m hm
    rw [ImportTable.mem_staticMembers, hstatics] at hm
    cases hm
  rw [lookup_initial, hmembers, List.find?_nil, Option.or_none]
  cases hfound : (r.after final).declared.singleTypes.find? (·.last == x) with
  | none => rfl
  | some t =>
      exfalso
      have hlast : t.last = x := by simpa using List.find?_some hfound
      have hmem : t ∈ (final.neededImports r).singleTypes := List.mem_of_find?_eq_some hfound
      have hmem' := hmem
      rw [singleTypes_neededImports, List.mem_filter] at hmem'
      -- what is kept is used, and so holds its simple name; hence it is the declared type
      have hkept : (final.neededImports r).hasSingleType first = true := by
        rcases Bool.or_eq_true_iff.mp hmem'.2 with hprune | hin
        · obtain ⟨m, hm, hcan⟩ := Name.isIn_iff.mp
            (e.hasSingleType (Name.isIn_iff.mpr ⟨first, List.mem_of_find?_eq_some hfirst, rfl⟩))
          refine Name.isIn_iff.mpr ⟨m, ?_, hcan⟩
          rw [singleTypes_neededImports, List.mem_filter]
          exact ⟨hm, by rw [hprune, Bool.true_or]⟩
        · obtain ⟨u, hu, hcan⟩ := Name.isIn_iff.mp hin
          obtain ⟨huconv, hold⟩ := hused u hu
          have htconv : t.Conventional := by
            rcases e.accounted t hmem'.1 with hdeclared | hadded
            · exact e.declared.singleTypes_conventional hdeclared
            · exact hadded.conventional
          rw [huconv.last_eq htconv hcan, hlast] at hold
          exact Name.isIn_iff.mpr ⟨t, hmem, hcan.symm.trans (hold.canonical_eq (e.holds_of_first hfirst))⟩
      rw [hkept] at hdropped
      exact Bool.noConfusion hdropped

end Dropped

end Assignment

/-! ## When running again changes nothing -/

namespace Resolver

variable {r : Resolver} {names : List Name}

lemma isStable_of_steady (hr : r.declared.Parsed) (hnames : ∀ n ∈ names, n.Parsed)
    (hsteady : ∀ n ∈ names, r.Steady (r.assign names).imports n) : r.IsStable names := by
  refine ⟨imports_assign_after hr hnames hsteady, fun n hn => ?_⟩
  obtain ⟨style, style', h, h', ha⟩ := get?_assign_after hr hnames hsteady hn
  have h'' : (Resolver.assign { r with declared := (r.assign names).imports } names).get? n = some style' := h'
  refine ⟨style.apply n, ?_, ?_⟩
  · simp only [Decisions.spelling?, h, Option.map_some]
  · simp only [Decisions.spelling?, h'', Option.map_some, ha.apply_eq]

/-- A list of top-level types of named packages, resolved again without any change: no declaration that was the first
of a simple name on the list has been dropped. -/
lemma keeps_of_isStable (hr : r.declared.Parsed) (hnames : ∀ n ∈ names, n.Parsed)
    (hstatics : r.declared.singleStatics = []) (htypes : ∀ n ∈ names, n.isTopLevel = true ∧ 0 < n.level)
    (h : r.IsStable names) {n : Name} (hn : n ∈ names) : r.Keeps (r.assign names).imports n.last := by
  intro first hfirst
  by_contra hnot
  have hdropped : (r.assign names).imports.hasSingleType first = false := by simpa using hnot
  have e := run_ended hr hnames
  have hsecond := (r.after (r.run names)).run_final hnames
  have hconv : ∀ m ∈ names, m.Conventional := fun m hm => (hnames m hm).conventional
  have hnil := (Assignment.initial_spec (r.after (r.run names))).1
  -- what was refused the simple name in the first run is spelled the same in the second
  have hrefused : ∀ m ∈ names, m.last = n.last →
      ((r.after (r.run names)).run names).styleOf? m = some .canonical := by
    intro m hm hlast
    obtain ⟨text, hfirstText, hsecondText⟩ := h.2 m hm
    obtain ⟨style, hstyle, rfl⟩ := Option.map_eq_some_iff.mp hfirstText
    obtain ⟨style', hstyle', hsame⟩ := Option.map_eq_some_iff.mp hsecondText
    have hcanonical := e.styleOf?_of_dropped (hlast ▸ hfirst) hdropped (hconv m hm) (htypes m hm).1 hstyle
    subst hcanonical
    rw [Style.eq_canonical_of_apply_eq (hconv m hm).toWellFormed (htypes m hm).1 (htypes m hm).2 hsame] at hstyle'
    exact hstyle'
  have hfree := Assignment.lookup_foldl_of_refused (r.after (r.run names)) names _
    (fun m hm => ⟨hconv m hm, (htypes m hm).1⟩) ⟨by simp [hnil], by simp [hnil]⟩
    (e.lookup_initial_of_dropped (r.run_used hnames) hstatics hfirst hdropped) hrefused
  -- but who is refused a simple name is refused it for somebody's sake
  obtain ⟨m, hmem, hcan⟩ := Assignment.exists_of_styleOf? (hrefused n hn rfl)
  have hmconv := hsecond.coherent.conventional hmem
  have hmtop : m.isTopLevel = true := (hmconv.isTopLevel_eq (hconv n hn) hcan).trans (htypes n hn).1
  obtain ⟨holder, hholder, -⟩ := (hsecond.coherent.settled hmem).taken_of_isTopLevel hmconv.toWellFormed hmtop
  rw [hmconv.last_eq (hconv n hn) hcan] at hholder
  have hfree' : ((r.after (r.run names)).run names).claims.lookup n.last = none := hfree
  rw [hfree'] at hholder
  cases hholder

/-- A top-level type asks for its own simple name only. -/
lemma steady_of_isTopLevel {t : ImportTable} {n : Name} (htop : n.isTopLevel = true) (hkeeps : r.Keeps t n.last) :
    r.Steady t n := by
  have hm := Name.isMember_of_isTopLevel htop
  refine ⟨fun _ _ => ⟨fun _ => hkeeps, ?_, ?_⟩, fun _ => hkeeps, fun hmember => ?_⟩
  · intro _ top ht
    rw [Name.topLevel?_of_isTopLevel htop, Option.some.injEq] at ht
    rwa [← ht]
  · intro hnested
    rw [htop] at hnested
    exact Bool.noConfusion hnested
  · rw [hm] at hmember
    exact Bool.noConfusion hmember

/-- **When running the pass again changes nothing.**  It is enough that dropped declarations do not matter for any name
of the list.  For top-level types of named packages, where no member is declared by itself, nothing less will do. -/
theorem stable_when_dropped_unasked (r : Resolver) (hr : r.declared.Parsed) (names : List Name)
    (hnames : ∀ n ∈ names, n.Parsed) :
    ((∀ n ∈ names, r.Steady (r.assign names).imports n) → r.IsStable names) ∧
      (r.declared.singleStatics = [] → (∀ n ∈ names, n.isTopLevel = true ∧ 0 < n.level) →
        r.IsStable names → ∀ n ∈ names, r.Steady (r.assign names).imports n) := by
  refine ⟨isStable_of_steady hr hnames, fun hstatics htypes hstable n hn => ?_⟩
  exact steady_of_isTopLevel (htypes n hn).1 (keeps_of_isStable hr hnames hstatics htypes hstable hn)

/-- The declaration of `c.Unused` is dropped, and nobody asks for its simple name. -/
theorem stable_without_unused :
    let list : Name := ⟨["java", "util", "List"], 2, false⟩
    let foo : Name := ⟨["a", "Foo"], 1, false⟩
    let unused : Name := ⟨["c", "Unused"], 1, false⟩
    let r : Resolver := { package := "com.example", declared := { singleTypes := [unused, list] } }
    (r.assign [list, foo]).imports.singleTypes = [list, foo] ∧ r.IsStable [list, foo] ∧
      ∀ n ∈ [list, foo], r.Steady (r.assign [list, foo]).imports n := by
  intro list foo unused r
  have hdeclared : r.declared.Parsed :=
    ImportTable.Parsed.empty.ofDeclarations
      (rfl : ImportTable.ofDeclarations ["c.Unused", "java.util.List"] {} = .ok r.declared)
  have hnames : ∀ n ∈ [list, foo], n.Parsed :=
    List.forall_mem_cons.mpr ⟨⟨"java.util.List", rfl⟩, List.forall_mem_singleton.mpr ⟨"a.Foo", rfl⟩⟩
  have himports : (r.assign [list, foo]).imports.singleTypes = [list, foo] := by
    rw [assign_of_singleStatics_nil _ _ rfl]
    decide +kernel
  have htypes : ∀ n ∈ [list, foo], n.isTopLevel = true ∧ 0 < n.level := by decide
  have hkeeps : ∀ n ∈ [list, foo], r.Keeps (r.assign [list, foo]).imports n.last := by
    refine List.forall_mem_cons.mpr ⟨fun n hn => ?_, List.forall_mem_singleton.mpr fun n hn => ?_⟩
    · have hfirst : r.declared.singleTypes.find? (·.last == list.last) = some list := by decide
      rw [hfirst, Option.some.injEq] at hn
      rw [← hn, ImportTable.hasSingleType, himports]
      decide
    · have hnone : r.declared.singleTypes.find? (·.last == foo.last) = none := by decide
      rw [hnone] at hn
      cases hn
  obtain ⟨hstable, hnecessary⟩ := stable_when_dropped_unasked r hdeclared _ hnames
  have hagain := hstable fun n hn => steady_of_isTopLevel (htypes n hn).1 (hkeeps n hn)
  exact ⟨himports, hagain, hnecessary rfl htypes hagain⟩

/-- **A dropped declaration leaves a trace.**  `b.Foo` is declared and not used.  It keeps `a.Foo` from being shortened
and is dropped; run again, the pass imports `a.Foo`. -/
theorem dropped_declaration_leaves_trace :
    ¬ ∀ (r : Resolver) (names : List Name), r.prune = true → r.declared.singleTypes ≠ [] → r.declared.Parsed →
      (∀ n ∈ names, n.Parsed) → r.IsStable names := by
  intro h
  let foo : Name := ⟨["a", "Foo"], 1, false⟩
  let r : Resolver := { package := "com.example", declared := { singleTypes := [⟨["b", "Foo"], 1, false⟩] } }
  have hdeclared : r.declared.Parsed :=
    ImportTable.Parsed.empty.ofDeclarations
      (rfl : ImportTable.ofDeclarations ["b.Foo"] {} = .ok r.declared)
  have hfirst : (r.assign [foo]).imports = {} := by
    rw [assign_of_singleStatics_nil _ _ rfl]
    decide +kernel
  have hsecond : (Resolver.assign { r with declared := {} } [foo]).imports = { singleTypes := [foo] } := by
    rw [assign_of_singleStatics_nil _ _ rfl]
    decide +kernel
  have hstable := (h r [foo] rfl (by simp [r]) hdeclared (List.forall_mem_singleton.mpr ⟨"a.Foo", rfl⟩)).1
  rw [hfirst, hsecond] at hstable
  exact absurd hstable (by decide)

end Resolver

end JavaSource
