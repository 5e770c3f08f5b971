import JavaSource.Template.Basic
import JavaSource.Proofs.Import.Steps
import JavaSource.Proofs.Value.WellNamed

/-!
# Templates under two policies

A template is filled under one policy for the names, and then under another one.  Only spellings can differ: both runs
end with the same error or with none, log the same names, and lay out their lines alike.

**Why.**  A marker sees its value and never the listing, so what it writes is the same fragment in both runs, or the
same error.  Fragments keep the layout, as long as their names are well-formed (`Listing.simulation_sameLayout`), and
those of well-named values are (`Action.wellFormed_written`).  `Simulation.run` carries this through the instructions.

**Resolving a template.**  Its two passes differ in the policy only.  So the second one cannot fail if the first did
not, and it logs the names that were decided after the first.
-/

namespace JavaSource

namespace Written

/-- Both ended with the same error or with none, and the listings are related. -/
structure Related (R : Listing → Listing → Prop) (w w' : Written) : Prop where
  error : w'.error? = w.error?
  listing : R w.listing w'.listing

lemma toExcept_of_some {w : Written} {e : EvalError} (h : w.error? = some e) : w.toExcept = .error e := by
  rw [toExcept, h]

lemma toExcept_of_none {w : Written} (h : w.error? = none) : w.toExcept = .ok w.listing := by
  rw [toExcept, h]

end Written

/-- The value that a marker is given is one of the values. -/
lemma Template.wellNamed_argument {b : Bindings} (hb : b.WellNamed) {next next' : Nat} {marker : Marker}
    {v : Option Value} (h : argument b next marker = .ok (v, next')) : ∀ w, v = some w → w.WellNamed := by
  rintro w rfl
  unfold argument at h
  split at h
  · split at h
    · obtain ⟨v, hv, heq⟩ := exists_of_map_eq_ok h
      cases heq
      exact hb.select hv
    · obtain ⟨v, hv, heq⟩ := exists_of_map_eq_ok h
      cases heq
      exact hb.select hv
  · cases h

namespace Listing.Simulation

variable {R : Listing → Listing → Prop} {l m : Listing}

/-! ## Instructions -/

lemma executeFixed {P : Name → Prop} (sim : Simulation P R) (a : Action) (h : R l m) :
    R (a.executeFixed l) (a.executeFixed m) := by
  cases a with
  | newline => exact sim.newline h
  | closeStatement => exact sim.newline (sim.appendChar ';' h)
  | space => exact sim.appendChar ' ' h
  | indent count => exact sim.shift _ h
  | dedent count => exact sim.shift _ h
  | _ => exact h

/-- **One action.**  What it writes does not depend on the listing. -/
lemma execute (sim : Simulation Name.WellFormed R) (a : Action) {v : Option Value} (hv : ∀ w, v = some w → w.WellNamed)
    (h : R l m) : (a.execute v l).Related R (a.execute v m) := by
  by_cases ha : a.consumes = true
  · cases v with
    | none =>
        rw [Action.execute_none ha, Action.execute_none ha]
        exact ⟨rfl, h⟩
    | some w =>
        cases hw : a.written w with
        | error e =>
            rw [Action.execute_of_error ha hw, Action.execute_of_error ha hw]
            exact ⟨rfl, h⟩
        | ok f =>
            rw [Action.execute_of_written ha hw, Action.execute_of_written ha hw]
            exact ⟨rfl, sim.emit f (Action.wellFormed_written (hv w rfl) hw) h⟩
  · rw [Action.execute_of_not_consumes ha, Action.execute_of_not_consumes ha]
    exact ⟨rfl, sim.executeFixed a h⟩

/-- **The instructions of a template**, one after the other. -/
lemma run (sim : Simulation Name.WellFormed R) {b : Bindings} (hb : b.WellNamed) :
    ∀ (instructions : List Instruction) (next : Nat) {l m : Listing}, R l m →
      (Template.run b next instructions l).Related R (Template.run b next instructions m)
  | [], _, _, _, h => ⟨rfl, h⟩
  | .text t :: rest, next, _, _, h => sim.run hb rest next (sim.appendText t h)
  | .marker marker :: rest, next, l, m, h => by
      cases ha : Template.argument b next marker with
      | error e =>
          simp only [Template.run, ha]
          exact ⟨rfl, h⟩
      | ok taken =>
          obtain ⟨v, next'⟩ := taken
          simp only [Template.run, ha]
          have hstep := sim.execute marker.action (Template.wellNamed_argument hb ha) h
          generalize marker.action.execute v l = w at hstep ⊢
          generalize marker.action.execute v m = w' at hstep ⊢
          obtain ⟨l', e⟩ := w
          obtain ⟨m', e'⟩ := w'
          obtain ⟨rfl, hlisting⟩ := hstep
          cases e' with
          | none => exact sim.run hb rest next' hlisting
          | some e => exact ⟨rfl, hlisting⟩

end Listing.Simulation

namespace Template

variable {t : Template} {b : Bindings}

/-! ## Evaluation and resolution -/

/-- Listings of the same layout are written to alike. -/
lemma evaluate_related (t : Template) (hb : b.WellNamed) {l m : Listing} (h : l.SameLayout m) :
    (t.evaluate b l).Related Listing.SameLayout (t.evaluate b m) :=
  Listing.simulation_sameLayout.run hb t.instructions 0 h

/-- Empty listings, whatever they indent by and however they write names. -/
lemma evaluate_fresh (t : Template) (hb : b.WellNamed) (indent : Indent) (policy : Policy) :
    (t.evaluate b {}).Related Listing.SameLayout (t.evaluate b ((Listing.withIndent indent).withPolicy policy)) :=
  t.evaluate_related hb ⟨rfl, rfl, rfl, rfl⟩

lemma resolve_of_some (r : Resolver) (hb : b.WellNamed) {e : EvalError} (h : (t.evaluate b {}).error? = some e) :
    t.resolve r b = .error e := by
  have hfirst := (t.evaluate_fresh hb r.indent .canonical).error.trans h
  have herror : (t.evaluate b (Listing.withIndent r.indent)).toExcept = .error e := Written.toExcept_of_some hfirst
  simp only [resolve, Resolver.resolveWith, herror]

/-- If plain evaluation succeeds, so do both passes. -/
lemma resolve_of_none (r : Resolver) (hb : b.WellNamed) (h : (t.evaluate b {}).error? = none) :
    let decisions := r.assign (t.evaluate b {}).listing.names
    let second := t.evaluate b ((Listing.withIndent r.indent).withPolicy decisions.policy)
    second.error? = none ∧ t.resolve r b = .ok { text := second.listing.text, decisions } := by
  intro decisions second
  have hfirst := t.evaluate_fresh hb r.indent .canonical
  have hcollected : (t.evaluate b (Listing.withIndent r.indent)).toExcept =
      .ok (t.evaluate b (Listing.withIndent r.indent)).listing := Written.toExcept_of_none (hfirst.error.trans h)
  have hnames : (t.evaluate b (Listing.withIndent r.indent)).listing.names = (t.evaluate b {}).listing.names :=
    hfirst.listing.names
  have hsecond : second.error? = none := (t.evaluate_fresh hb r.indent decisions.policy).error.trans h
  refine ⟨hsecond, ?_⟩
  simp only [resolve, Resolver.resolveWith, hcollected, hnames]
  have houtput : (t.evaluate b ((Listing.withIndent r.indent).withPolicy
      (r.assign (t.evaluate b {}).listing.names).policy)).toExcept = .ok second.listing :=
    Written.toExcept_of_none hsecond
  rw [houtput]

/-- **The policy changes spellings only.**  Filled under two policies, a template ends with the same error or with none,
and with listings of the same layout.  Hence resolving it fails exactly if plain evaluation does, and with the same
error; otherwise the second pass succeeds, and every name that it logs has been decided. -/
theorem policy_changes_spelling_only (t : Template) (b : Bindings) (hb : b.WellNamed) :
    (∀ (l : Listing) (p q : Policy),
      (t.evaluate b (l.withPolicy q)).error? = (t.evaluate b (l.withPolicy p)).error? ∧
        (t.evaluate b (l.withPolicy p)).listing.SameLayout (t.evaluate b (l.withPolicy q)).listing) ∧
    ∀ r : Resolver,
      (∀ e, t.resolve r b = .error e ↔ (t.evaluate b {}).error? = some e) ∧
      ((t.evaluate b {}).error? = none →
        let decisions := r.assign (t.evaluate b {}).listing.names
        let second := t.evaluate b ((Listing.withIndent r.indent).withPolicy decisions.policy)
        second.error? = none ∧ t.resolve r b = .ok { text := second.listing.text, decisions } ∧
          ∀ n ∈ second.listing.names, (decisions.get? n).isSome = true) := by
  refine ⟨fun l p q => ?_, fun r => ⟨fun e => ⟨fun h => ?_, resolve_of_some r hb⟩, fun h => ?_⟩⟩
  · have hrelated := t.evaluate_related hb (l := l.withPolicy p) (m := l.withPolicy q) ⟨rfl, rfl, rfl, rfl⟩
    exact ⟨hrelated.error, hrelated.listing⟩
  · cases herror : (t.evaluate b {}).error? with
    | none =>
        rw [(resolve_of_none r hb herror).2] at h
        cases h
    | some e' =>
        rw [resolve_of_some r hb herror] at h
        cases h
        rfl
  · intro decisions second
    obtain ⟨hsecond, hresolve⟩ := resolve_of_none r hb h
    refine ⟨hsecond, hresolve, fun n hn => r.isSome_get?_assign ?_⟩
    rwa [← (t.evaluate_fresh hb r.indent decisions.policy).listing.names]

/-- Two lists and a package, with a blank line between them: the second list keeps its package in both passes. -/
theorem policy_changes_spelling_only_lists :
    let awt : Name := ⟨["java", "awt", "List"], 2, false⟩
    let marker : Action → Instruction := fun a => .marker ⟨a, a.code, none, 0, 0⟩
    let t : Template := ⟨[marker .name, .text " in ", marker (.chain "enclosing"), marker .newline, marker .newline,
      marker .newline, marker .type]⟩
    let b : Bindings := { positional := [.text "java.util.List", .name awt, .type (.array (.ofName awt))] }
    let r : Resolver := { package := "com.example" }
    b.WellNamed ∧ (t.evaluate b {}).error? = none ∧
      (t.evaluate b ({ depth := 1 : Listing }.withPolicy (.constant .canonical))).listing.SameLayout
        (t.evaluate b ({ depth := 1 : Listing }.withPolicy (.constant .last))).listing ∧
      ∃ resolution, t.resolve r b = .ok resolution ∧ resolution.text = "List in java.awt\n\njava.awt.List[]" := by
  intro awt marker t b r
  have hawt : awt.WellFormed := (Name.make_eq_ok (rfl : Name.make awt.identifiers 2 false = .ok awt)).2
  have hb : b.WellNamed := by
    refine ⟨?_, by simp [b]⟩
    refine List.forall_mem_cons.mpr ⟨.text _, List.forall_mem_cons.mpr ⟨.name hawt, List.forall_mem_singleton.mpr ?_⟩⟩
    exact .type (by simpa [TypeExpr.fragment, TypeExpr.ofName, TypeExpr.argumentList, Fragment.names, Fragment.namesAll]
      using hawt)
  have hplain : (t.evaluate b {}).error? = none := by decide +kernel
  obtain ⟨hlayout, hresolve⟩ := policy_changes_spelling_only t b hb
  refine ⟨hb, hplain, (hlayout { depth := 1 } _ _).2, _, ((hresolve r).2 hplain).2.1, ?_⟩
  rw [Resolver.assign_of_singleStatics_nil _ _ rfl]
  decide +kernel

end Template

end JavaSource
