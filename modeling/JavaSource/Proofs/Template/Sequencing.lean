import Mathlib.Order.Nat
import JavaSource.Template.Basic
import JavaSource.Proofs.Basic
import JavaSource.Proofs.Template.Actions

/-!
# One instruction after the other

Evaluation carries out the instructions of a template from left to right, and an error ends it.  This file says what is
in the listing then.

**Sequencing.**  Running two lists of instructions in a row is running the first, and then, unless an error has
occurred, the second from the listing that was left (`Template.run_append`).  The second one starts at the position that
the first one has reached, which is the number of values that its markers have taken by position.

**Failure.**  An action that fails leaves the listing as it was (`Action.listing_execute`), and with it an instruction.
Hence **the listing of a failed evaluation** is the one that the instructions before the failing one have made.
-/

namespace JavaSource

/-! ## Sequencing -/

namespace Written

/-- Goes on from the listing, unless an error has occurred. -/
def andThen (w : Written) (next : Listing → Written) : Written :=
  match w.error? with
  | some _ => w
  | none => next w.listing

lemma andThen_of_some {w : Written} {e : EvalError} (h : w.error? = some e) (next : Listing → Written) :
    w.andThen next = w := by
  rw [andThen, h]

lemma andThen_of_none {w : Written} (h : w.error? = none) (next : Listing → Written) :
    w.andThen next = next w.listing := by
  rw [andThen, h]

lemma andThen_assoc (w : Written) (next after : Listing → Written) :
    (w.andThen next).andThen after = w.andThen fun l => (next l).andThen after := by
  cases h : w.error? with
  | none => rw [andThen_of_none h, andThen_of_none h]
  | some e => rw [andThen_of_some h, andThen_of_some h, andThen_of_some h]

end Written

namespace Template

variable {b : Bindings} {next : Nat} {l : Listing}

/-- A marker moves the next free position exactly if it takes its value by position. -/
lemma next_of_argument {m : Marker} {v : Option Value} {next' : Nat} (h : argument b next m = .ok (v, next')) :
    next' = next + [Instruction.marker m].countP isImplicit := by
  unfold argument at h
  split at h
  · rename_i hconsumes
    split at h
    · rename_i s hselector
      obtain ⟨w, -, heq⟩ := exists_of_map_eq_ok h
      cases heq
      simp [isImplicit, hselector]
    · rename_i hselector
      obtain ⟨w, -, heq⟩ := exists_of_map_eq_ok h
      cases heq
      simp [isImplicit, hselector, hconsumes]
  · rename_i hconsumes
    cases h
    simp [isImplicit, hconsumes]

/-- **One instruction, and then the rest.** -/
lemma run_cons (i : Instruction) (rest : List Instruction) :
    run b next (i :: rest) l = (run b next [i] l).andThen (run b (next + [i].countP isImplicit) rest) := by
  cases i with
  | text t => simp [run, isImplicit, Written.andThen]
  | marker m =>
      cases ha : argument b next m with
      | error e => simp only [run, ha, Written.andThen]
      | ok taken =>
          obtain ⟨v, next'⟩ := taken
          rw [← next_of_argument ha]
          simp only [run, ha]
          generalize m.action.execute v l = w
          obtain ⟨l', e⟩ := w
          cases e with
          | none => rfl
          | some e => rfl

/-- **Two lists of instructions in a row.** -/
lemma run_append (front rest : List Instruction) :
    run b next (front ++ rest) l = (run b next front l).andThen (run b (next + front.countP isImplicit) rest) := by
  induction front generalizing next l with
  | nil => rfl
  | cons i front ih =>
      have hcount : next + (i :: front).countP isImplicit =
          next + [i].countP isImplicit + front.countP isImplicit := by
        rw [← List.singleton_append, List.countP_append, Nat.add_assoc]
      rw [List.cons_append, run_cons, run_cons i front, Written.andThen_assoc, hcount]
      exact congrArg _ (funext fun l => ih)

lemma evaluate_append (front rest : List Instruction) : (Template.mk (front ++ rest)).evaluate b l =
    ((Template.mk front).evaluate b l).andThen (run b (Template.mk front).implicitArguments rest) := by
  rw [evaluate, run_append, Nat.zero_add]
  rfl

end Template

/-! ## Failure -/

namespace Template

variable {t : Template} {b : Bindings} {next k : Nat} {l : Listing} {e : EvalError}

/-- An instruction that fails leaves the listing as it was, whether it lacks a value or cannot write it. -/
lemma listing_run_singleton {i : Instruction} (h : (run b next [i] l).error? = some e) :
    (run b next [i] l).listing = l := by
  cases i with
  | text t => cases h
  | marker m =>
      cases ha : argument b next m with
      | error e' => simp only [run, ha]
      | ok taken =>
          obtain ⟨v, next'⟩ := taken
          have hlisting : ∀ e, (m.action.execute v l).error? = some e → (m.action.execute v l).listing = l :=
            fun e => Action.listing_execute
          simp only [run, ha] at h ⊢
          generalize m.action.execute v l = w at h hlisting ⊢
          obtain ⟨l', e'⟩ := w
          cases e' with
          | none => cases h
          | some e' => exact hlisting e' rfl

/-- The first `k` instructions of a template. -/
def take (k : Nat) (t : Template) : Template := ⟨t.instructions.take k⟩

/-- Evaluation fails at place `k`, counted from 0: the first `k` instructions are carried out, and the next one is not. -/
structure FailsAt (t : Template) (b : Bindings) (l : Listing) (k : Nat) (e : EvalError) : Prop where
  before : ((t.take k).evaluate b l).error? = none
  here : ((t.take (k + 1)).evaluate b l).error? = some e

/-- Once an error has occurred, further instructions change nothing. -/
lemma evaluate_of_take (h : ((t.take k).evaluate b l).error? = some e) : t.evaluate b l = (t.take k).evaluate b l := by
  have happend := evaluate_append (b := b) (l := l) (t.instructions.take k) (t.instructions.drop k)
  rw [List.take_append_drop] at happend
  exact happend.trans (Written.andThen_of_some h _)

lemma FailsAt.lt_length (h : t.FailsAt b l k e) : k < t.instructions.length := by
  by_contra hle
  have hall : t.take (k + 1) = t.take k := by
    simp only [take, List.take_of_length_le (by omega : t.instructions.length ≤ k),
      List.take_of_length_le (by omega : t.instructions.length ≤ k + 1)]
  have hhere := h.here
  rw [hall, h.before] at hhere
  cases hhere

/-- **The listing of a failed evaluation** is the one that the instructions before the failing one have made. -/
lemma FailsAt.evaluate_eq (h : t.FailsAt b l k e) :
    t.evaluate b l = ⟨((t.take k).evaluate b l).listing, some e⟩ := by
  have hnext : (t.take (k + 1)).evaluate b l =
      run b (t.take k).implicitArguments [t.instructions.get ⟨k, h.lt_length⟩] ((t.take k).evaluate b l).listing := by
    have happend := evaluate_append (b := b) (l := l) (t.instructions.take k) [t.instructions.get ⟨k, h.lt_length⟩]
    rw [List.get_eq_getElem, List.take_append_getElem] at happend
    exact happend.trans (Written.andThen_of_none h.before _)
  have herror := hnext ▸ h.here
  have hlisting := listing_run_singleton herror
  rw [evaluate_of_take h.here, hnext]
  generalize run b _ [_] ((t.take k).evaluate b l).listing = w at herror hlisting
  obtain ⟨l', e'⟩ := w
  cases herror
  cases hlisting
  rfl

/-- An evaluation that fails does so at some place. -/
lemma exists_failsAt (h : (t.evaluate b l).error? = some e) : ∃ k, t.FailsAt b l k e := by
  -- the shortest beginning of the template that cannot be carried out
  have hfails : ∃ n, ((t.take n).evaluate b l).error?.isSome = true :=
    ⟨t.instructions.length, by simp [take, h]⟩
  obtain ⟨n, hn, hleast⟩ : ∃ n, ((t.take n).evaluate b l).error?.isSome = true ∧
      ∀ k < n, ¬ ((t.take k).evaluate b l).error?.isSome = true :=
    ⟨Nat.find hfails, Nat.find_spec hfails, fun k => Nat.find_min hfails⟩
  cases n with
  | zero => cases hn
  | succ k =>
      obtain ⟨e', he'⟩ := Option.isSome_iff_exists.mp hn
      have hbefore : ((t.take k).evaluate b l).error? = none := by simpa using hleast k (Nat.lt_succ_self k)
      have heq : e' = e := by
        rw [evaluate_of_take he', he'] at h
        exact Option.some.inj h
      exact ⟨k, hbefore, heq ▸ he'⟩

lemma FailsAt.unique {k' : Nat} {e' : EvalError} (h : t.FailsAt b l k e) (h' : t.FailsAt b l k' e') : k' = k := by
  have hle : ∀ {k k' : Nat} {e e' : EvalError}, t.FailsAt b l k e → t.FailsAt b l k' e' → k' ≤ k := by
    intro k k' e e' h h'
    by_contra hlt
    -- then the first `k'` instructions include the one at place `k`, and cannot be carried out
    have htake : (t.take k').take (k + 1) = t.take (k + 1) := by
      simp only [take, List.take_take, Nat.min_eq_left (by omega : k + 1 ≤ k')]
    have herror : ((t.take k').evaluate b l).error? = some e := by
      rw [evaluate_of_take (k := k + 1) (by rw [htake, h.here]), htake, h.here]
    rw [h'.before] at herror
    cases herror
  exact Nat.le_antisymm (hle h h') (hle h' h)

/-- **Failure leaves no trace.**  An action that fails leaves the whole listing as it was.  Hence an evaluation that
fails does so at exactly one place, and leaves the listing that the instructions before that place have made. -/
theorem failure_leaves_no_trace :
    (∀ (a : Action) (v : Option Value) (l : Listing) (e : EvalError), (a.execute v l).error? = some e →
      (a.execute v l).listing = l) ∧
    ∀ (t : Template) (b : Bindings) (l : Listing) (e : EvalError), (t.evaluate b l).error? = some e →
      (∃! k, t.FailsAt b l k e) ∧
      ∀ k, t.FailsAt b l k e → (t.evaluate b l).listing = ((t.take k).evaluate b l).listing := by
  refine ⟨fun a v l e => Action.listing_execute, fun t b l e h => ⟨?_, fun k hk => ?_⟩⟩
  · obtain ⟨k, hk⟩ := exists_failsAt h
    exact ⟨k, hk, fun k' => hk.unique⟩
  · rw [hk.evaluate_eq]

/-- A path that ends at a null: the line before it has been completed, and nothing was written in its place. -/
theorem failure_leaves_no_trace_path :
    let owned : Value := .object ⟨"a", "B"⟩ fun member => if member = "owner" then some .null else none
    let path : Action := .chain "owner.name"
    let e : EvalError := .unresolvedPath "owner.name" "name" "null"
    let t : Template := ⟨[.text "int x\n= ", .marker ⟨path, path.code, none, 8, 23⟩, .text ";"]⟩
    let b : Bindings := { positional := [owned] }
    let l : Listing := { line := "static ", depth := 1 }
    (path.execute (some owned) l).error? = some e ∧ (path.execute (some owned) l).listing = l ∧
      (t.evaluate b l).error? = some e ∧ t.FailsAt b l 1 e ∧
      (t.evaluate b l).listing.lines = [String.toList "    static int x"] ∧ (t.evaluate b l).listing.line = "= " := by
  intro owned path e t b l
  have hexecute : (path.execute (some owned) l).error? = some e := by decide +kernel
  have hevaluate : (t.evaluate b l).error? = some e := by decide +kernel
  have hfails : t.FailsAt b l 1 e := ⟨by decide +kernel, by decide +kernel⟩
  have hlisting := (failure_leaves_no_trace.2 t b l e hevaluate).2 1 hfails
  refine ⟨hexecute, failure_leaves_no_trace.1 path (some owned) l e hexecute, hevaluate, hfails, ?_, ?_⟩
  · rw [hlisting]
    decide +kernel
  · rw [hlisting]
    decide +kernel

end Template

end JavaSource
