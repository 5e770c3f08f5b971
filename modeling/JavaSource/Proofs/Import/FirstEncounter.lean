import JavaSource.Proofs.Import.Steps

/-!
# Who is met first

Without declared imports the pass has a plain meaning: of all top-level types with the same simple name, the one that is
met first is written without its package, with all that is in it, and the others are written in full.

**The rule.**  `Style.firstCome` says so of a single name, looking only at the top-level types of the list, in order.
`Resolver.firstComeImports` lists the imports that this rule needs.  Neither of them mentions the pass.

**The pass follows the rule.**  `Assignment.FirstServed r types s` says that the state `s` is what the rule makes of the
top-level types met so far: their claims, their imports, and every recorded decision.  One decision keeps it and adds
the top-level type of the name to those met (`FirstServed.decide`), and so the whole pass obeys the rule.
-/

namespace JavaSource

namespace Name

/-- The top-level types of a list of names, in order.  Packages have none. -/
def topLevels (names : List Name) : List Name := names.filterMap topLevel?

/-- The first of these types with the given simple name. -/
def firstOf? (types : List Name) (simple : Text) : Option Name := types.find? (·.last == simple)

/-- The type is the first one of its simple name. -/
def isFirstOf (types : List Name) (top : Name) : Bool := firstOf? types top.last == some top

end Name

/-- How a name is written if whoever comes first is served first. -/
def Style.firstCome (types : List Name) (n : Name) : Style :=
  match n.topLevel? with
  | none => .canonical
  | some top => if top.isFirstOf types then .short else .canonical

namespace Resolver

/-- The first type of each simple name, unless it is visible without an import. -/
def firstTypes (r : Resolver) (types : List Name) : List Name :=
  (types.filter fun top => top.isFirstOf types && !r.isVisible top.package).eraseDups

/-- The imports of a list of names if whoever comes first is served first: the top-level types of the names that are
written short, unless they are visible, each once and in order. -/
def firstComeImports (r : Resolver) (names : List Name) : List Name :=
  let short := names.filter fun n => Style.firstCome (Name.topLevels names) n == .short
  ((Name.topLevels short).filter fun top => !r.isVisible top.package).eraseDups

end Resolver

/-! ## The rule -/

namespace Name

variable {types : List Name} {n top : Name}

lemma firstOf?_append (types : List Name) (top : Name) (x : Text) :
    firstOf? (types ++ [top]) x = (firstOf? types x).or (if x = top.last then some top else none) := by
  simp only [firstOf?, List.find?_append]
  congr 1
  by_cases hx : x = top.last
  · simp [hx]
  · simp [hx, beq_false_of_ne (Ne.symm hx)]

lemma exists_firstOf? (h : top ∈ types) : ∃ first, firstOf? types top.last = some first :=
  Option.isSome_iff_exists.mp (List.find?_isSome.mpr ⟨top, h, beq_self_eq_true _⟩)

/-- A type whose simple name has been met before does not change who was first. -/
lemma firstOf?_append_of_some {first : Name} (h : firstOf? types top.last = some first) (x : Text) :
    firstOf? (types ++ [top]) x = firstOf? types x := by
  rw [firstOf?_append]
  split
  · rename_i hx
    rw [hx, h, Option.some_or]
  · rw [Option.or_none]

lemma isFirstOf_append_of_some {first : Name} (h : firstOf? types top.last = some first) (t : Name) :
    t.isFirstOf (types ++ [top]) = t.isFirstOf types := by
  rw [isFirstOf, isFirstOf, firstOf?_append_of_some h]

/-- Whoever has been met is first or not, whatever comes later. -/
lemma isFirstOf_append_of_mem {t : Name} (h : t ∈ types) (top : Name) :
    t.isFirstOf (types ++ [top]) = t.isFirstOf types := by
  obtain ⟨first, hfirst⟩ := exists_firstOf? h
  rw [isFirstOf, isFirstOf, firstOf?_append, hfirst, Option.some_or]

lemma mem_of_isFirstOf (h : top.isFirstOf types = true) : top ∈ types :=
  List.mem_of_find?_eq_some (beq_iff_eq.mp h)

end Name

lemma Style.firstCome_congr {types : List Name} {m n : Name} (h : m.topLevel? = n.topLevel?) :
    firstCome types m = firstCome types n := by
  rw [firstCome, firstCome, h]

/-- A member whose type is decided by the rule is decided by the rule. -/
lemma Style.ofMember_firstCome (types : List Name) (outer n : Name) :
    (firstCome types n).ofMember outer = firstCome types n := by
  unfold firstCome
  split
  · rfl
  · split <;> rfl

lemma Style.firstCome_ne_last (types : List Name) (n : Name) : firstCome types n ≠ .last := by
  unfold firstCome
  split
  · simp
  · split <;> simp

lemma Style.firstCome_append_of_mem {types : List Name} {n : Name} (h : ∀ t, n.topLevel? = some t → t ∈ types)
    (top : Name) : firstCome (types ++ [top]) n = firstCome types n := by
  unfold firstCome
  cases ht : n.topLevel? with
  | none => rfl
  | some t => simp only [Name.isFirstOf_append_of_mem (h t ht)]

namespace Resolver

variable {types : List Name} {top : Name}

lemma mem_firstTypes {r : Resolver} :
    top ∈ r.firstTypes types ↔ top.isFirstOf types = true ∧ r.isVisible top.package = false := by
  rw [firstTypes, List.mem_eraseDups, List.mem_filter, Bool.and_eq_true, Bool.not_eq_true']
  exact ⟨fun h => h.2, fun h => ⟨Name.mem_of_isFirstOf h.1, h⟩⟩

/-- Only the top-level types matter for the imports. -/
lemma firstComeImports_eq (r : Resolver) (names : List Name) :
    r.firstComeImports names = r.firstTypes (Name.topLevels names) := by
  have hshort : Name.topLevels (names.filter fun n => Style.firstCome (Name.topLevels names) n == .short) =
      (Name.topLevels names).filter fun top => top.isFirstOf (Name.topLevels names) := by
    generalize hall : Name.topLevels names = types
    rw [← hall]
    simp only [Name.topLevels, List.filterMap_filter, List.filter_filterMap]
    refine List.filterMap_congr fun n _ => ?_
    cases ht : n.topLevel? with
    | none => simp
    | some top => cases top.isFirstOf types <;> simp [Style.firstCome, ht, Option.filter]
  simp only [firstComeImports, firstTypes, hshort, List.filter_filter, Bool.and_comm]

/-- A type whose simple name has been met before needs no import of its own. -/
lemma firstTypes_append_of_some (r : Resolver) {first : Name} (h : Name.firstOf? types top.last = some first) :
    r.firstTypes (types ++ [top]) = r.firstTypes types := by
  simp only [firstTypes, Name.isFirstOf_append_of_some h, List.filter_append, List.eraseDups_append]
  -- if the new type is the first one of its simple name, it is a repetition
  have hnone : ([top].filter fun t => t.isFirstOf types && !r.isVisible t.package).removeAll
      (types.filter fun t => t.isFirstOf types && !r.isVisible t.package) = [] := by
    rw [List.removeAll, List.filter_eq_nil_iff]
    intro t ht
    obtain ⟨hmem, hneeded⟩ := List.mem_filter.mp ht
    have hold := Name.mem_of_isFirstOf (Bool.and_eq_true_iff.mp hneeded).1
    simpa using And.intro hold (by simpa using hneeded)
  rw [hnone, List.eraseDups_nil, List.append_nil]

/-- A type of a simple name that has not been met before is imported, unless it is visible. -/
lemma firstTypes_append_of_none (r : Resolver) (h : Name.firstOf? types top.last = none) :
    r.firstTypes (types ++ [top]) =
      r.firstTypes types ++ if r.isVisible top.package then [] else [top] := by
  have hnew : top.isFirstOf (types ++ [top]) = true := by
    simp [Name.isFirstOf, Name.firstOf?_append, h]
  have hmem : top ∉ types := by
    intro hmem
    obtain ⟨first, hfirst⟩ := Name.exists_firstOf? hmem
    rw [h] at hfirst
    cases hfirst
  have hold : (types.filter fun t => t.isFirstOf (types ++ [top]) && !r.isVisible t.package) =
      types.filter fun t => t.isFirstOf types && !r.isVisible t.package :=
    List.filter_congr fun t ht => by rw [Name.isFirstOf_append_of_mem ht]
  simp only [firstTypes, List.filter_append, List.eraseDups_append, hold]
  cases hv : r.isVisible top.package with
  | true => simp [hv, hnew, List.removeAll]
  | false => simp [hv, hnew, hmem, List.removeAll, List.eraseDups_cons]

end Resolver

/-! ## Nothing declared -/

namespace ImportTable

lemma styleFor_empty (n : Name) : styleFor {} n = .canonical := by
  have hlast : allowsLast {} n = false := by simp [allowsLast, hasSingle, Name.isIn]
  have hshort : allowsShort {} n = false := by simp [allowsShort]
  exact styleFor_eq_canonical_iff.mpr ⟨hlast, hshort⟩

lemma hasStatic_empty (n : Name) : hasStatic {} n = false := by
  simp [hasStatic, Name.isIn]

end ImportTable

/-! ## One decision -/

namespace Assignment

variable {r : Resolver} {s : Assignment} {types : List Name} {n top : Name} {style : Style}

/-- The state is what the rule makes of the top-level types met so far. -/
structure FirstServed (r : Resolver) (types : List Name) (s : Assignment) : Prop where
  divided : ∀ t ∈ types, t.Conventional ∧ t.isMember = false
  claims : ∀ x, s.claims.lookup x = Name.firstOf? types x
  imports : s.imports = { singleTypes := r.firstTypes types }
  conventional : ∀ {n : Name} {style : Style}, (n, style) ∈ s.styles → n.Conventional
  met : ∀ {n top : Name} {style : Style}, (n, style) ∈ s.styles → n.topLevel? = some top → top ∈ types
  styles : ∀ {n : Name} {style : Style}, (n, style) ∈ s.styles → style = Style.firstCome types n

/-- Types that have been met are told apart by their canonical text. -/
lemma FirstServed.eq_of_canonical (h : s.FirstServed r types) {t : Name} (ht : t ∈ types) (htop : top.Conventional)
    (hm : top.isMember = false) (hcan : t.canonical = top.canonical) : t = top :=
  (h.divided t ht).1.eq_of_canonical htop hcan ((h.divided t ht).2.trans hm.symm)

/-- A name that was decided before. -/
lemma FirstServed.known (h : s.FirstServed r types) (hn : n.Conventional) (hk : s.styleOf? n = some style) :
    (∀ top, n.topLevel? = some top → top ∈ types) ∧ style = Style.firstCome types n := by
  obtain ⟨m, hmem, hcan⟩ := exists_of_styleOf? hk
  have htop := (h.conventional hmem).topLevel?_eq hn hcan
  constructor
  · intro top ht
    exact h.met hmem (htop.trans ht)
  · rw [h.styles hmem, Style.firstCome_congr htop]

/-- One more type is met.  It has to be seen in the claims and in the imports; the decisions made before stand. -/
lemma FirstServed.append (h : s.FirstServed r types) {s' : Assignment} (htop : top.Conventional)
    (hm : top.isMember = false) (hclaims : ∀ x, s'.claims.lookup x = Name.firstOf? (types ++ [top]) x)
    (himports : s'.imports = { singleTypes := r.firstTypes (types ++ [top]) }) (hstyles : s'.styles = s.styles) :
    s'.FirstServed r (types ++ [top]) := by
  refine ⟨?_, hclaims, himports, fun hmem => h.conventional (hstyles ▸ hmem),
    fun hmem ht => List.mem_append_left _ (h.met (hstyles ▸ hmem) ht), ?_⟩
  · intro t ht
    rcases List.mem_append.mp ht with ht | ht
    · exact h.divided t ht
    · rw [List.mem_singleton.mp ht]
      exact ⟨htop, hm⟩
  · intro n style hmem
    rw [hstyles] at hmem
    rw [h.styles hmem, Style.firstCome_append_of_mem fun t => h.met hmem]

/-- Meeting a type again changes nothing. -/
lemma FirstServed.again (h : s.FirstServed r types) (htop : top ∈ types) : s.FirstServed r (types ++ [top]) := by
  obtain ⟨first, hfirst⟩ := Name.exists_firstOf? htop
  refine h.append (h.divided top htop).1 (h.divided top htop).2 (fun x => ?_) ?_ rfl
  · rw [h.claims, Name.firstOf?_append_of_some hfirst]
  · rw [h.imports, r.firstTypes_append_of_some hfirst]

lemma FirstServed.record (h : s.FirstServed r types) (hn : n.Conventional)
    (hmet : ∀ top, n.topLevel? = some top → top ∈ types) :
    (s.record n (Style.firstCome types n)).FirstServed r types := by
  have hentry : ∀ {m : Name} {style : Style}, (m, style) ∈ (s.record n (Style.firstCome types n)).styles →
      (m, style) ∈ s.styles ∨ m = n ∧ style = Style.firstCome types n := by
    intro m style hmem
    simpa [Assignment.record] using hmem
  refine ⟨h.divided, h.claims, h.imports, fun hmem => ?_, fun hmem => ?_, fun hmem => ?_⟩
  · rcases hentry hmem with hmem | ⟨rfl, -⟩
    · exact h.conventional hmem
    · exact hn
  · rcases hentry hmem with hmem | ⟨rfl, -⟩
    · exact h.met hmem
    · exact hmet _
  · rcases hentry hmem with hmem | ⟨rfl, rfl⟩
    · exact h.styles hmem
    · rfl

/-- A type is granted its simple name exactly if it is the first one met. -/
lemma FirstServed.fst_claim (h : s.FirstServed r types) (htop : top.Conventional) (hm : top.isMember = false) :
    (s.claim top.last top).1 = top.isFirstOf (types ++ [top]) := by
  rw [Assignment.fst_claim, h.claims, Name.isFirstOf, Name.firstOf?_append, if_pos rfl]
  cases hfirst : Name.firstOf? types top.last with
  | none => simp [Name.same]
  | some first =>
      have hmem : first ∈ types := List.mem_of_find?_eq_some hfirst
      rw [Bool.eq_iff_iff, Option.getD_some, Name.same_iff, Option.some_or, beq_iff_eq, Option.some.injEq]
      exact ⟨h.eq_of_canonical hmem htop hm, fun heq => by rw [heq]⟩

/-- A type that is granted its simple name is imported, where the rule says so. -/
lemma FirstServed.imports_require (h : s.FirstServed r types) (htop : top.Conventional) (hm : top.isMember = false)
    (hfirst : top.isFirstOf (types ++ [top]) = true) :
    (s.require r top).imports = { singleTypes := r.firstTypes (types ++ [top]) } := by
  rw [Assignment.imports_require, h.imports]
  cases hmet : Name.firstOf? types top.last with
  | some first =>
      rw [r.firstTypes_append_of_some hmet, if_pos]
      rw [Name.isFirstOf_append_of_some hmet] at hfirst
      cases hv : r.isVisible top.package with
      | true => rfl
      | false => exact Name.isIn_iff.mpr ⟨top, Resolver.mem_firstTypes.mpr ⟨hfirst, hv⟩, rfl⟩
  | none =>
      rw [r.firstTypes_append_of_none hmet]
      have hnew : top.isIn (r.firstTypes types) = false := by
        by_contra hin
        obtain ⟨t, ht, hcan⟩ := Name.isIn_iff.mp (by simpa using hin)
        have hmem := Name.mem_of_isFirstOf (Resolver.mem_firstTypes.mp ht).1
        obtain ⟨first, hsome⟩ := Name.exists_firstOf? hmem
        rw [h.eq_of_canonical hmem htop hm hcan, hmet] at hsome
        cases hsome
      cases hv : r.isVisible top.package with
      | true => simp
      | false => simp [ImportTable.hasSingleType, hnew]

/-- **Meeting a type.**  Its claim is answered, and the type imported, as the rule says. -/
lemma FirstServed.meet (h : s.FirstServed r types) (htop : top.Conventional) (hm : top.isMember = false) :
    (if (s.claim top.last top).1 then ((s.claim top.last top).2.require r top).use top
      else (s.claim top.last top).2).FirstServed r (types ++ [top]) := by
  have hclaims : ∀ x, (s.claim top.last top).2.claims.lookup x = Name.firstOf? (types ++ [top]) x := by
    intro x
    rw [lookup_claim, h.claims, Name.firstOf?_append]
  rw [h.fst_claim htop hm]
  split
  · rename_i hfirst
    refine h.append htop hm (fun x => ?_) ?_ ?_
    · rw [← hclaims x, Assignment.use, claims_require]
    · rw [← h.imports_require htop hm hfirst, Assignment.imports_require]
      exact (Assignment.imports_require r top _).trans (by rw [imports_claim])
    · exact (styles_require r top _).trans (styles_claim s top.last top)
  · rename_i hnot
    refine h.append htop hm hclaims ?_ (styles_claim s top.last top)
    rw [imports_claim, h.imports]
    cases hmet : Name.firstOf? types top.last with
    | some first => rw [r.firstTypes_append_of_some hmet]
    | none => simp [Name.isFirstOf, Name.firstOf?_append, hmet] at hnot

/-- A decision obeys the rule: it answers what the rule says of the types met so far, that of the name included. -/
def Obeys (r : Resolver) (types : List Name) (n : Name) (decision : Style × Assignment) : Prop :=
  decision.1 = Style.firstCome (types ++ n.topLevel?.toList) n ∧
    decision.2.FirstServed r (types ++ n.topLevel?.toList)

/-- A name that was decided before belongs to a type that has been met. -/
lemma FirstServed.obeys_of_known (h : s.FirstServed r types) (hn : n.Conventional) (hk : s.styleOf? n = some style) :
    Obeys r types n (style, s) := by
  obtain ⟨hmet, hstyle⟩ := h.known hn hk
  unfold Obeys
  cases ht : n.topLevel? with
  | none => simpa using ⟨hstyle, h⟩
  | some top =>
      refine ⟨?_, h.again (hmet top ht)⟩
      rw [hstyle, Option.toList_some, Style.firstCome_append_of_mem hmet]

lemma Obeys.record (hn : n.Conventional) {decision : Style × Assignment} (h : Obeys r types n decision) :
    Obeys r types n (decision.1, decision.2.record n decision.1) := by
  refine ⟨h.1, ?_⟩
  rw [h.1]
  exact h.2.record hn fun top ht => by simp [ht]

lemma decideType_obeys (hd : r.declared = {}) (h : s.FirstServed r types) (hn : n.Conventional)
    (hp : n.isPackage = false) : Obeys r types n (s.decideType r n) := by
  obtain ⟨top, ht⟩ : ∃ top, n.topLevel? = some top := ⟨_, Name.topLevel?_of_not_isPackage hp⟩
  have htop := hn.topLevel ht
  have hm := Name.isMember_of_isTopLevel (hn.isTopLevel_topLevel ht)
  have hstyle : r.declared.styleFor n = .canonical := by
    rw [hd]
    exact ImportTable.styleFor_empty n
  have hgranted := h.fst_claim htop hm
  have hmeet := h.meet htop hm
  rw [decideType_of_canonical s hstyle ht]
  simp only [Obeys, ht, Option.toList_some, Style.firstCome, ← hgranted]
  cases hc : (s.claim top.last top).1 <;> simpa [hc] using hmeet

lemma decidePlain_obeys (hd : r.declared = {}) (h : s.FirstServed r types) (hn : n.Conventional) :
    Obeys r types n (s.decidePlain r n) := by
  unfold decidePlain
  cases hknown : s.styleOf? n with
  | some style => exact h.obeys_of_known hn hknown
  | none =>
      have hfound : Obeys r types n (if n.isPackage then (.canonical, s) else s.decideType r n) := by
        cases hp : n.isPackage with
        | true =>
            have ht : n.topLevel? = none := if_pos hp
            simpa [Obeys, ht, Style.firstCome] using h
        | false => exact decideType_obeys hd h hn hp
      exact hfound.record hn

/-- A member is decided as its type is: they have the same top-level type. -/
lemma decideMember_obeys (hd : r.declared = {}) (h : s.FirstServed r types) (hn : n.Conventional)
    (hm : n.isMember = true) : Obeys r types n (s.decideMember r n) := by
  obtain ⟨outer, he⟩ := hn.exists_enclosing hm
  have htop := hn.topLevel?_enclosing hm he
  have houter := decidePlain_obeys hd h (hn.enclosing he)
  have hstatic : r.declared.hasStatic n = false := by
    rw [hd]
    exact ImportTable.hasStatic_empty n
  have hdecide : s.decideMember r n = s.decideByType r n := by simp [decideMember, hstatic]
  rw [hdecide, decideByType_eq r s he]
  unfold Obeys at houter ⊢
  rw [htop] at houter
  refine ⟨?_, houter.2⟩
  rw [houter.1, Style.ofMember_firstCome, Style.firstCome_congr htop]

/-- **One decision obeys the rule.** -/
lemma decide_obeys (hd : r.declared = {}) (h : s.FirstServed r types) (hn : n.Conventional) :
    Obeys r types n (s.decide r n) := by
  unfold decide
  split
  · exact decidePlain_obeys hd h hn
  · rename_i hplain
    have hm : n.isMember = true := by simp_all
    cases hknown : s.styleOf? n with
    | some style => exact h.obeys_of_known hn hknown
    | none => exact (decideMember_obeys hd h hn hm).record hn

/-! ## The whole pass -/

lemma foldl_firstServed (hd : r.declared = {}) : ∀ (names types : List Name) (s : Assignment),
    (∀ n ∈ names, n.Conventional) → s.FirstServed r types →
      (names.foldl (fun s n => (s.decide r n).2) s).FirstServed r (types ++ Name.topLevels names)
  | [], types, s, _, h => by simpa [Name.topLevels] using h
  | n :: names, types, s, hn, h => by
      have hstep := (decide_obeys hd h (hn n (List.mem_cons_self ..))).2
      have hrest := foldl_firstServed hd names _ _ (fun m hm => hn m (List.mem_cons_of_mem _ hm)) hstep
      have htypes : types ++ Name.topLevels (n :: names) =
          types ++ n.topLevel?.toList ++ Name.topLevels names := by
        rw [List.append_assoc]
        congr 1
        cases ht : n.topLevel? <;> simp [Name.topLevels, ht]
      rw [htypes]
      exact hrest

end Assignment

namespace Resolver

variable {r : Resolver} {names : List Name}

lemma run_firstServed (hd : r.declared = {}) (hnames : ∀ n ∈ names, n.Parsed) :
    (r.run names).FirstServed r (Name.topLevels names) := by
  have hinit : (Assignment.initial r).FirstServed r [] := by
    rw [Assignment.initial_of_singleStatics_nil (by rw [hd]), hd]
    exact ⟨by simp, fun _ => rfl, rfl, by simp, by simp, by simp⟩
  exact Assignment.foldl_firstServed hd names [] _ (fun n hn => (hnames n hn).conventional) hinit

/-- Whatever the pass imports is used, so nothing is dropped. -/
lemma imports_assign_of_nothing_declared (hd : r.declared = {}) (hnames : ∀ n ∈ names, n.Parsed) :
    (r.assign names).imports = (r.run names).imports := by
  have hused : ∀ n ∈ (r.run names).imports.singleTypes, n.isIn (r.run names).used = true := by
    intro n hn
    rcases r.run_imports hnames n hn with hdeclared | hadded
    · rw [hd] at hdeclared
      cases hdeclared
    · exact Name.isIn_iff.mpr ⟨n, hadded.used, rfl⟩
  simp only [assign, Assignment.neededImports]
  split
  · rw [ImportTable.retain, List.filter_eq_self.mpr hused]
  · rfl

/-- **Whoever is met first is served first.**  With nothing declared, every name is written as `Style.firstCome` says,
packages in full; no name is written by its last identifier; and the imports are those that the rule needs. -/
theorem assign_serves_first (r : Resolver) (hd : r.declared = {}) (names : List Name)
    (hnames : ∀ n ∈ names, n.Parsed) :
    (∀ n ∈ names, (r.assign names).get? n = some (Style.firstCome (Name.topLevels names) n)) ∧
      (∀ n style, (n, style) ∈ (r.assign names).styles → style ≠ .last) ∧
      (r.assign names).imports = { singleTypes := r.firstComeImports names } := by
  have hrun := run_firstServed hd hnames
  refine ⟨fun n hn => ?_, fun n style hmem => ?_, ?_⟩
  · obtain ⟨style, hstyle⟩ := r.run_decides hnames hn
    rw [← (hrun.known (hnames n hn).conventional hstyle).2]
    exact hstyle
  · rw [hrun.styles hmem]
    exact Style.firstCome_ne_last _ n
  · rw [imports_assign_of_nothing_declared hd hnames, hrun.imports, firstComeImports_eq]

/-- Two lists meet behind a package and a nested type: a member of the second one is written in full, as it is. -/
theorem serves_first_list :
    let awt : Name := ⟨["java", "awt", "List"], 2, false⟩
    let of : Name := ⟨["java", "util", "List", "of"], 2, true⟩
    let entry : Name := ⟨["java", "util", "Map", "Entry"], 2, false⟩
    let names : List Name := [⟨["java", "util"], 2, false⟩, entry, awt, of, ⟨["java", "lang", "String"], 2, false⟩, awt]
    let r : Resolver := { package := "com.example" }
    r.declared = {} ∧
      (r.assign names).get? entry = some .short ∧ (r.assign names).get? of = some .canonical ∧
      (∀ n style, (n, style) ∈ (r.assign names).styles → style ≠ .last) ∧
      (r.assign names).imports = { singleTypes := [⟨["java", "util", "Map"], 2, false⟩, awt] } := by
  intro awt of entry names r
  have hparsed : ∀ n ∈ names, n.Parsed :=
    List.forall_mem_cons.mpr ⟨⟨"java.util", rfl⟩, List.forall_mem_cons.mpr ⟨⟨"java.util.Map.Entry", rfl⟩,
      List.forall_mem_cons.mpr ⟨⟨"java.awt.List", rfl⟩, List.forall_mem_cons.mpr ⟨⟨"java.util.List.of", rfl⟩,
        List.forall_mem_cons.mpr ⟨⟨"java.lang.String", rfl⟩, List.forall_mem_singleton.mpr ⟨"java.awt.List", rfl⟩⟩⟩⟩⟩⟩
  obtain ⟨hstyles, hlast, himports⟩ := assign_serves_first r rfl names hparsed
  refine ⟨rfl, (hstyles entry (by simp [names])).trans ?_, (hstyles of (by simp [names])).trans ?_, hlast,
    himports.trans ?_⟩
  · decide +kernel
  · decide +kernel
  · decide +kernel

end Resolver

end JavaSource
