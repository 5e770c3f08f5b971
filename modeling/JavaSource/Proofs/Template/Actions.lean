import Mathlib.Tactic.Common
import JavaSource.Template.Action

/-!
# What actions write

An action asks its value for something, which may fail, and writes into the listing, which may not.  This file says in
which order that happens, and what is written.

**Asking before writing.**  A step is **atomic** if an error leaves the listing as it was.  Asking is, since it never writes,
and writing is, since it never fails; and so is asking and then going on atomically (`Writing.Asks.bind`).  Every way
through an action has this form (`Value.renderInto_atomic`, `Action.render_atomic`).  Hence **an action that fails leaves
the listing as it was** (`Action.listing_execute`).

**What is written.**  The listing has no say in what an action writes for a value.  It is a fragment or an error
(`Action.written`), and carrying out the action is emitting that fragment (`Action.render_eq`).
-/

namespace JavaSource

/-! ## Asking before writing -/

namespace Writing

variable {α β : Type} {x : Writing α} {f : α → Writing β}

/-- However it ends, the listing is as it was. -/
def Asks (x : Writing α) : Prop := ∀ l, (x.run.run l).2 = l

/-- If it stops with an error, the listing is as it was. -/
def Atomic (x : Writing α) : Prop := ∀ l e, (x.run.run l).1 = .error e → (x.run.run l).2 = l

lemma asks_lift (r : Except EvalError α) : (liftM r : Writing α).Asks := fun _ => rfl

lemma atomic_throw (e : EvalError) : (throw e : Writing α).Atomic := fun _ _ _ => rfl

lemma atomic_modify (write : Listing → Listing) : (modify write : Writing Unit).Atomic := by
  intro l e h
  cases h

/-- **First asking, then going on atomically.** -/
lemma Asks.bind (hx : x.Asks) (hf : ∀ a, (f a).Atomic) : (x >>= f).Atomic := by
  intro l e h
  have hlisting : (x.run.run l).2 = l := hx l
  rw [ExceptT.run_bind, StateT.run_bind] at h ⊢
  cases hrun : x.run.run l with
  | mk result l' =>
      rw [hrun] at h hlisting
      cases hlisting
      cases result with
      | error e' => rfl
      | ok a => exact hf a _ e h

-- The other way round, what was written stays.
example (e : EvalError) (l : Listing) :
    ((do modify (Listing.push "int"); throw e : Writing Unit).into l).listing = l.push "int" := rfl

/-- Asking for something, and then writing what the answer says. -/
lemma atomic_ask (r : Except EvalError α) (write : α → Listing → Listing) :
    (liftM r >>= fun a => modify (write a) : Writing Unit).Atomic :=
  (asks_lift r).bind fun a => atomic_modify (write a)

lemma Atomic.listing_into {x : Writing Unit} (hx : x.Atomic) {l : Listing} {e : EvalError}
    (h : (x.into l).error? = some e) : (x.into l).listing = l := by
  have hlisting := hx l
  unfold into at h ⊢
  cases hrun : x.run.run l with
  | mk result l' =>
      rw [hrun] at h hlisting
      cases result with
      | ok a => cases h
      | error e' => exact hlisting e' rfl

end Writing

namespace Value

mutual

/-- A value that cannot be written is refused before anything of it is written. -/
lemma renderInto_atomic : ∀ v : Value, v.renderInto.Atomic
  | .name _ => Writing.atomic_modify _
  | .type _ => Writing.atomic_modify _
  | .classRef _ => Writing.atomic_ask _ _
  | .fragment _ => Writing.atomic_modify _
  | .object c accessor => renderAnswer_atomic c (accessor "toString")
  | .null | .bool _ | .int _ | .long _ | .double _ | .char _ | .text _ => Writing.atomic_modify _

lemma renderAnswer_atomic (c : ClassRef) : ∀ answer : Option Value, (renderAnswer c answer).Atomic
  | none => Writing.atomic_throw _
  | some v => by
      have hv := renderInto_atomic v
      cases v with
      | object _ _ => exact Writing.atomic_throw _
      | _ => exact hv

end

end Value

namespace Action

lemma renderType_atomic (v : Value) : (renderType v).Atomic := by
  unfold renderType
  split
  · exact Writing.atomic_modify _
  · exact Writing.atomic_ask _ _

/-- **Every way through an action** asks before it writes. -/
lemma render_atomic (a : Action) (v : Value) : (a.render v).Atomic := by
  cases a with
  | raw => exact Writing.atomic_ask _ _
  | literal => exact Writing.atomic_ask _ _
  | fragment => exact v.renderInto_atomic
  | name => exact Writing.atomic_ask _ _
  | type => exact renderType_atomic v
  | binary => exact Writing.atomic_ask _ _
  | chain path => exact (Writing.asks_lift _).bind Value.renderInto_atomic
  | _ => exact Writing.atomic_modify _

/-- **An action that fails leaves the listing as it was.** -/
lemma listing_execute {a : Action} {v : Option Value} {l : Listing} {e : EvalError}
    (h : (a.execute v l).error? = some e) : (a.execute v l).listing = l := by
  refine Writing.Atomic.listing_into ?_ h
  unfold steps
  split
  · split
    · exact Writing.atomic_throw _
    · exact a.render_atomic _
  · exact Writing.atomic_modify _

end Action

/-! ## What is written -/

/-- Emits a fragment, if there is one. -/
def Writing.emit (r : Except EvalError Fragment) : Writing Unit := do
  let f ← r
  modify f.emit

/-- Asking for something and writing it is emitting what it is as a fragment. -/
lemma Writing.ask_eq_emit {α : Type} (r : Except EvalError α) {write : α → Listing → Listing} {g : α → Fragment}
    (h : ∀ a, (g a).emit = write a) :
    (liftM r >>= fun a => modify (write a) : Writing Unit) = emit (r.map g) := by
  rw [show write = fun a => (g a).emit from funext fun a => (h a).symm]
  cases r with
  | error e => rfl
  | ok a => rfl

/-- **A value is written like its fragment**, an object like what it answers. -/
lemma Value.renderInto_eq (v : Value) : v.renderInto = Writing.emit v.toFragment := by
  cases v with
  | classRef c => exact Writing.ask_eq_emit _ fun _ => rfl
  | object c accessor =>
      have hanswer : access (.object c accessor) "toString" = accessor "toString" := rfl
      rw [renderInto, toFragment, represented, hanswer]
      cases accessor "toString" with
      | none => rfl
      | some w =>
          cases w with
          | classRef c => exact Writing.ask_eq_emit _ fun _ => rfl
          | _ => rfl
  | _ => rfl

namespace Action

/-- The value as a type, or else the class that it names. -/
def typeFragment : Value → Except EvalError Fragment
  | .type t => .ok t.fragment
  | v => (v.toName "T").map fun n => (TypeExpr.ofName n).fragment

/-- What an action writes for a value. -/
def written (a : Action) (v : Value) : Except EvalError Fragment :=
  match a with
  | .raw => v.raw.map .text
  | .literal => v.literal.map .text
  | .fragment => v.toFragment
  | .name => (v.toName "N").map .name
  | .type => typeFragment v
  | .binary => (v.toName "B").map fun n => .text n.binary
  | .chain path =>
    match v.walk path with
    | .ok w => w.toFragment
    | .error e => .error e
  | _ => .ok .empty

lemma renderType_eq (v : Value) : renderType v = Writing.emit (typeFragment v) := by
  cases v with
  | type t => rfl
  | _ => exact Writing.ask_eq_emit _ fun _ => rfl

/-- **An action on a value emits a fragment**, or fails with an error, whatever is in the listing. -/
lemma render_eq {a : Action} (ha : a.consumes = true) (v : Value) : a.render v = Writing.emit (a.written v) := by
  cases a with
  | raw => exact Writing.ask_eq_emit _ fun _ => rfl
  | literal => exact Writing.ask_eq_emit _ fun _ => rfl
  | fragment => exact v.renderInto_eq
  | name => exact Writing.ask_eq_emit _ fun _ => rfl
  | type => exact renderType_eq v
  | binary => exact Writing.ask_eq_emit _ fun _ => rfl
  | chain path =>
      rw [written, render]
      cases v.walk path with
      | error e => rfl
      | ok w => exact w.renderInto_eq
  | _ => cases ha

/-- An action that can write the value writes it. -/
lemma execute_of_written {a : Action} {v : Value} {f : Fragment} (ha : a.consumes = true) (hf : a.written v = .ok f)
    (l : Listing) : a.execute (some v) l = ⟨f.emit l, none⟩ := by
  simp only [execute, steps, if_pos ha, render_eq ha, hf]
  rfl

lemma execute_of_error {a : Action} {v : Value} {e : EvalError} (ha : a.consumes = true) (hv : a.written v = .error e)
    (l : Listing) : a.execute (some v) l = ⟨l, some e⟩ := by
  simp only [execute, steps, if_pos ha, render_eq ha, hv]
  rfl

lemma execute_none {a : Action} (ha : a.consumes = true) (l : Listing) :
    a.execute none l = ⟨l, some (.missingArgument a.code)⟩ := by
  simp only [execute, steps, if_pos ha]
  rfl

lemma execute_of_not_consumes {a : Action} (ha : ¬ a.consumes = true) (v : Option Value) (l : Listing) :
    a.execute v l = ⟨a.executeFixed l, none⟩ := by
  simp only [execute, steps, if_neg ha]
  rfl

end Action

end JavaSource
