import Mathlib.Data.List.Forall2
import Mathlib.Data.List.Induction
import JavaSource.Proofs.Template.Sequencing

/-!
# Values by position

A marker that takes a value and has no selector gets the value at the next free position.  This file shows that this is
**a short way of writing positions**: a template does the same as its explicit form, in which every such marker selects
the position that it would have been given.

**The explicit form.**  The position of a marker is the number of markers before it that take a value and have no
selector.  It does not mention the evaluation, which keeps a counter instead; the two agree because the counter goes up
by one at exactly these markers (`Template.run_append`).

**Stray selectors.**  A marker that takes no value may have a selector all the same.  It is never looked at.
-/

namespace JavaSource

/-! ## The explicit form -/

namespace Instruction

/-- The instruction with a selector. -/
def select (s : Selector) : Instruction → Instruction
  | .text t => .text t
  | .marker m => .marker { m with selector := some s }

/-- The instruction has a selector. -/
def isSelected : Instruction → Bool
  | .text _ => false
  | .marker m => m.selector.isSome

/-- The instruction, which selects position `n` if it takes a value and does not say which one. -/
def atPosition (n : Nat) (i : Instruction) : Instruction := if Template.isImplicit i then i.select (.index n) else i

/-- The instructions are the same but for the selector of a marker that takes no value. -/
inductive SameButStray : Instruction → Instruction → Prop
  | same (i : Instruction) : SameButStray i i
  | stray (m : Marker) (s : Option Selector) (arity : m.action.arity = .none ∨ m.action.arity = .tag) :
      SameButStray (.marker m) (.marker { m with selector := s })

lemma isSelected_atPosition (n : Nat) (i : Instruction) :
    [i.atPosition n].countP isSelected = [i].countP isSelected + [i].countP Template.isImplicit := by
  unfold atPosition
  split
  · rename_i himplicit
    cases i with
    | text t => cases himplicit
    | marker m =>
        have hselector : m.selector.isNone = true := (Bool.and_eq_true_iff.mp himplicit).2
        simp [select, isSelected, himplicit, Option.isNone_iff_eq_none.mp hselector]
  · rename_i himplicit
    simp [himplicit]

end Instruction

namespace Template

variable {b : Bindings} {l : Listing}

/-- The instructions, where a marker that takes a value and does not say which one selects the position given by the
number of such markers before it. -/
def explicitAll (instructions : List Instruction) : List Instruction :=
  instructions.mapIdx fun k i => i.atPosition ((instructions.take k).countP isImplicit)

/-- The explicit form of a template. -/
def explicit (t : Template) : Template := ⟨explicitAll t.instructions⟩

/-- How many markers have a selector. -/
def selectors (t : Template) : Nat := t.instructions.countP Instruction.isSelected

lemma explicitAll_concat (front : List Instruction) (i : Instruction) :
    explicitAll (front ++ [i]) = explicitAll front ++ [i.atPosition (front.countP isImplicit)] := by
  have hfront : (front.mapIdx fun k i' => i'.atPosition (((front ++ [i]).take k).countP isImplicit)) =
      explicitAll front := by
    refine List.mapIdx_eq_mapIdx_iff.mpr fun k hk => ?_
    rw [List.take_append_of_le_length (Nat.le_of_lt hk)]
  rw [explicitAll, List.mapIdx_concat, hfront, List.take_left']
  rfl

lemma countP_isSelected_explicitAll (instructions : List Instruction) :
    (explicitAll instructions).countP Instruction.isSelected =
      instructions.countP Instruction.isSelected + instructions.countP isImplicit := by
  induction instructions using List.reverseRecOn with
  | nil => rfl
  | append_singleton front i ih =>
      rw [explicitAll_concat, List.countP_append, List.countP_append, List.countP_append, ih,
        Instruction.isSelected_atPosition]
      omega

/-! ## Evaluation -/

/-- The value that a marker is given.  The counter stands in for a selector, and the position behind it is left out. -/
lemma fst_argument (next : Nat) (m : Marker) : (argument b next m).map Prod.fst =
    if m.action.consumes then (b.select (m.selector.getD (.index next))).map some else .ok none := by
  have hmap : ∀ (x : Except EvalError Value) (n : Nat), (x.map fun v => (some v, n)).map Prod.fst = x.map some := by
    intro x n
    cases x <;> rfl
  unfold argument
  split
  · cases m.selector with
    | none => exact hmap _ _
    | some s => exact hmap _ _
  · rfl

/-- What a marker does is determined by its action and by its value. -/
lemma run_marker_congr {m m' : Marker} {next next' : Nat} (haction : m'.action = m.action)
    (hvalue : (argument b next' m').map Prod.fst = (argument b next m).map Prod.fst) :
    run b next' [.marker m'] l = run b next [.marker m] l := by
  cases ha : argument b next m with
  | error e =>
      cases ha' : argument b next' m' with
      | error e' =>
          rw [ha, ha'] at hvalue
          cases hvalue
          simp only [run, ha, ha']
      | ok taken' =>
          rw [ha, ha'] at hvalue
          cases hvalue
  | ok taken =>
      obtain ⟨v, reached⟩ := taken
      cases ha' : argument b next' m' with
      | error e' =>
          rw [ha, ha'] at hvalue
          cases hvalue
      | ok taken' =>
          obtain ⟨v', reached'⟩ := taken'
          obtain rfl : v' = v := by
            rw [ha, ha'] at hvalue
            exact Except.ok.inj hvalue
          simp only [run, ha, ha', haction]

/-- **One instruction.**  Where the counter stands at `n`, position `n` is selected; for other markers the counter does
not matter. -/
lemma run_atPosition (i : Instruction) (n next : Nat) : run b next [i.atPosition n] l = run b n [i] l := by
  cases i with
  | text t => rfl
  | marker m =>
      unfold Instruction.atPosition
      split
      · rename_i himplicit
        have hselector : m.selector = none := Option.isNone_iff_eq_none.mp (Bool.and_eq_true_iff.mp himplicit).2
        refine run_marker_congr rfl ?_
        rw [fst_argument, fst_argument, hselector]
        rfl
      · rename_i himplicit
        refine run_marker_congr rfl ?_
        rw [fst_argument, fst_argument]
        cases hselector : m.selector with
        | none =>
            have hconsumes : m.action.consumes = false := by simpa [isImplicit, hselector] using himplicit
            rw [hconsumes]
            rfl
        | some s => rfl

/-- **A template does the same as its explicit form.** -/
lemma evaluate_explicit (t : Template) : t.explicit.evaluate b l = t.evaluate b l := by
  obtain ⟨instructions⟩ := t
  induction instructions using List.reverseRecOn with
  | nil => rfl
  | append_singleton front i ih =>
      have hexplicit : (Template.mk (front ++ [i])).explicit =
          ⟨(Template.mk front).explicit.instructions ++ [i.atPosition (Template.mk front).implicitArguments]⟩ :=
        congrArg Template.mk (explicitAll_concat front i)
      rw [hexplicit, evaluate_append, evaluate_append]
      have hlast : ∀ next, run b next [i.atPosition (Template.mk front).implicitArguments] =
          run b (Template.mk front).implicitArguments [i] :=
        fun next => funext fun l => run_atPosition i _ next
      rw [hlast]
      exact congrArg (Written.andThen · _) ih

/-! ## Stray selectors -/

lemma isImplicit_of_sameButStray {i i' : Instruction} (h : i.SameButStray i') : isImplicit i' = isImplicit i := by
  cases h with
  | same i => rfl
  | stray m s arity => rcases arity with arity | arity <;> simp [isImplicit, Action.consumes, arity, Arity.consumes]

lemma run_of_sameButStray {i i' : Instruction} (h : i.SameButStray i') (next : Nat) :
    run b next [i'] l = run b next [i] l := by
  cases h with
  | same i => rfl
  | stray m s arity =>
      refine run_marker_congr rfl ?_
      have hconsumes : m.action.consumes = false := by
        rcases arity with arity | arity <;> simp [Action.consumes, arity, Arity.consumes]
      rw [fst_argument, fst_argument, hconsumes]
      rfl

/-- **The selector of a marker that takes no value does not matter.** -/
lemma run_of_forall₂ {instructions instructions' : List Instruction}
    (h : List.Forall₂ Instruction.SameButStray instructions instructions') (next : Nat) (l : Listing) :
    run b next instructions' l = run b next instructions l := by
  induction h generalizing next l with
  | nil => rfl
  | @cons i i' rest rest' hi hrest ih =>
      have hcount : [i'].countP isImplicit = [i].countP isImplicit := by
        rw [List.countP_singleton, List.countP_singleton, isImplicit_of_sameButStray hi]
      rw [run_cons, run_cons i, run_of_sameButStray hi, hcount]
      exact congrArg _ (funext fun l => ih _ l)

/-- **Implicit positions are explicit ones.**  A template and its explicit form write the same listing and end with the
same error or with none.  The explicit form has as many selectors more as there are values handed out by position.
And selectors of markers that take no value, whatever they are, change nothing. -/
theorem implicit_positions_explicit (t : Template) :
    (∀ (b : Bindings) (l : Listing), t.explicit.evaluate b l = t.evaluate b l) ∧
    t.explicit.selectors = t.selectors + t.implicitArguments ∧
    ∀ t' : Template, List.Forall₂ Instruction.SameButStray t.instructions t'.instructions →
      ∀ (b : Bindings) (l : Listing), t'.evaluate b l = t.evaluate b l :=
  ⟨fun _ _ => evaluate_explicit t, countP_isSelected_explicitAll t.instructions,
    fun _ h _ l => run_of_forall₂ h 0 l⟩

/-- Two values by position with a selected one and a stray selector between them, and a missing value at the end. -/
theorem implicit_positions_explicit_stray :
    let marker (a : Action) (s : Option Selector) : Instruction := .marker ⟨a, a.code, s, 0, 0⟩
    let t : Template := ⟨[marker .raw none, marker .literal (some (.key "k")), marker .newline (some (.index 7)),
      .text "x", marker .fragment none, marker .raw none]⟩
    let t' : Template := ⟨[marker .raw none, marker .literal (some (.key "k")), marker .newline none,
      .text "x", marker .fragment none, marker .raw none]⟩
    let b : Bindings := { positional := [.bool true, .char 'c'], named := [("k", .null)] }
    List.Forall₂ Instruction.SameButStray t.instructions t'.instructions ∧
      t.explicit.instructions = [marker .raw (some (.index 0)), marker .literal (some (.key "k")),
        marker .newline (some (.index 7)), .text "x", marker .fragment (some (.index 1)),
        marker .raw (some (.index 2))] ∧
      t.implicitArguments = 3 ∧ t.explicit.selectors = 5 ∧
      (t'.evaluate b {}).listing.lines = [String.toList "truenull"] ∧ (t'.evaluate b {}).listing.line = "xc" ∧
      (t'.evaluate b {}).error? = some (.missingArgument "2") ∧ t'.evaluate b {} = t.explicit.evaluate b {} := by
  intro marker t t' b
  have hstray : List.Forall₂ Instruction.SameButStray t.instructions t'.instructions :=
    .cons (.same _) (.cons (.same _) (.cons (.stray _ none (.inl rfl)) (.cons (.same _) (.cons (.same _)
      (.cons (.same _) .nil)))))
  obtain ⟨hexplicit, hselectors, hstrays⟩ := implicit_positions_explicit t
  refine ⟨hstray, by decide +kernel, by decide +kernel, ?_, by decide +kernel, by decide +kernel, by decide +kernel, ?_⟩
  · rw [hselectors]
    decide +kernel
  · rw [hexplicit, hstrays t' hstray]

end Template

end JavaSource
