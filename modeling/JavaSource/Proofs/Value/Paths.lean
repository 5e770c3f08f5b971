import Mathlib.Tactic.Common
import JavaSource.Value.Basic

/-!
# Paths, piece by piece

A dotted path is followed from value to value, each of which has members of its own kind.  Still, **a path may be cut at
any of its dots**: it leads where its second part leads from wherever its first part leads.

**One segment.**  `Value.Answers` says in two rules what a segment leads to: the member of that name, and its getter if
there is no such member.  A segment for which neither rule applies is unanswered.

**All segments.**  `Value.Leads` strings the answers together.  A walk succeeds exactly along such a string
(`Value.walkAlong_eq_ok_iff`), and it fails exactly at the first segment that the value reached so far does not answer
(`Value.walkAlong_eq_error_iff`).  So the walk is described without its order of execution, and cutting a path comes
down to cutting the list of its segments (`Value.leads_append_iff`).
-/

namespace JavaSource.Value

variable {u v w : Value} {segment : Text}

/-! ## One segment -/

/-- Asked for a segment of a path, the value answers with another one. -/
inductive Answers : Value → Text → Value → Prop
  /-- The member of that name. -/
  | member {v w : Value} {segment : Text} (h : v.access segment = some w) : Answers v segment w
  /-- The getter, if there is no member of that name. -/
  | getter {v w : Value} {segment : Text} (hmember : v.access segment = none)
      (h : v.access (getterName segment) = some w) : Answers v segment w

/-- The value has neither a member of that name nor a getter. -/
def Unanswered (v : Value) (segment : Text) : Prop := v.access segment = none ∧ v.access (getterName segment) = none

lemma step_eq_some_iff : v.step segment = some w ↔ v.Answers segment w := by
  unfold step
  constructor
  · intro h
    split at h
    · rename_i hmember
      cases h
      exact .member hmember
    · rename_i hmember
      exact .getter hmember h
  · intro h
    cases h with
    | member h => rw [h]
    | getter hmember h => rw [hmember, h]

lemma step_eq_none_iff : v.step segment = none ↔ v.Unanswered segment := by
  unfold step Unanswered
  cases v.access segment with
  | none => simp
  | some w => simp

/-! ## All segments -/

/-- The segments of a path lead from the value to another one. -/
inductive Leads : Value → List Text → Value → Prop
  | nil (v : Value) : Leads v [] v
  | cons {u v w : Value} {segment : Text} {rest : List Text} (here : Answers v segment u)
      (further : Leads u rest w) : Leads v (segment :: rest) w

/-- **A list of segments may be cut anywhere.** -/
lemma leads_append_iff {front rest : List Text} :
    v.Leads (front ++ rest) w ↔ ∃ u, v.Leads front u ∧ u.Leads rest w := by
  constructor
  · intro h
    induction front generalizing v with
    | nil => exact ⟨v, .nil v, h⟩
    | cons segment front ih =>
        cases h with
        | cons here further =>
            obtain ⟨u, hfront, hrest⟩ := ih further
            exact ⟨u, .cons here hfront, hrest⟩
  · rintro ⟨u, hfront, hrest⟩
    induction hfront with
    | nil v => exact hrest
    | cons here _ ih => exact .cons here (ih hrest)

/-- A walk succeeds exactly where the segments lead. -/
lemma walkAlong_eq_ok_iff (path : Text) {segments : List Text} :
    walkAlong path segments v = .ok w ↔ v.Leads segments w := by
  constructor
  · intro h
    induction segments generalizing v with
    | nil =>
        cases h
        exact .nil w
    | cons segment rest ih =>
        rw [walkAlong] at h
        split at h
        · rename_i u hstep
          exact .cons (step_eq_some_iff.mp hstep) (ih h)
        · cases h
  · intro h
    induction h with
    | nil v => rfl
    | cons here _ ih =>
        rw [walkAlong, step_eq_some_iff.mpr here]
        exact ih

/-- **A walk fails exactly at the first segment that is not answered**, and says which one, on what kind of value. -/
lemma walkAlong_eq_error_iff (path : Text) {segments : List Text} {e : EvalError} :
    walkAlong path segments v = .error e ↔ ∃ front segment rest u, segments = front ++ segment :: rest ∧
      v.Leads front u ∧ u.Unanswered segment ∧ e = .unresolvedPath path segment u.kind := by
  constructor
  · intro h
    induction segments generalizing v with
    | nil => cases h
    | cons segment rest ih =>
        rw [walkAlong] at h
        split at h
        · rename_i u hstep
          obtain ⟨front, failed, rest, w, rfl, hfront, hfailed, he⟩ := ih h
          exact ⟨segment :: front, failed, rest, w, rfl, .cons (step_eq_some_iff.mp hstep) hfront, hfailed, he⟩
        · rename_i hstep
          cases h
          exact ⟨[], segment, rest, v, rfl, .nil v, step_eq_none_iff.mp hstep, rfl⟩
  · rintro ⟨front, segment, rest, u, rfl, hfront, hfailed, rfl⟩
    induction hfront with
    | nil v => rw [List.nil_append, walkAlong, step_eq_none_iff.mpr hfailed]
    | cons here _ ih =>
        rw [List.cons_append, walkAlong, step_eq_some_iff.mpr here]
        exact ih hfailed

/-! ## Paths -/

lemma walk_eq_ok_iff {path : Text} : v.walk path = .ok w ↔ v.Leads (path.splitOn '.') w :=
  walkAlong_eq_ok_iff path

/-- The segments of two paths with a dot between them. -/
lemma splitOn_dotted (p q : Text) : (p ++ "." ++ q).splitOn '.' = p.splitOn '.' ++ q.splitOn '.' := by
  rw [List.append_assoc]
  exact List.splitOn_append_cons_self p q

/-- **Paths compose.**  A path with a dot in it succeeds exactly if its first part leads to a value from which its second
part leads on, and then with the same result.  It fails exactly if some segment is not answered by the value that the
segments before it lead to; the error names the whole path, this segment, and the kind of that value. -/
theorem paths_compose (v : Value) (p q : Text) :
    (∀ w, v.walk (p ++ "." ++ q) = .ok w ↔ ∃ u, v.walk p = .ok u ∧ u.walk q = .ok w) ∧
      ∀ e, v.walk (p ++ "." ++ q) = .error e ↔
        ∃ front segment rest u, (p ++ "." ++ q).splitOn '.' = front ++ segment :: rest ∧ v.Leads front u ∧
          u.Unanswered segment ∧ e = .unresolvedPath (p ++ "." ++ q) segment u.kind := by
  refine ⟨fun w => ?_, fun e => walkAlong_eq_error_iff _⟩
  simp only [walk_eq_ok_iff, splitOn_dotted, leads_append_iff]

/-- The error is about the class, which has no such member, and not about the segment behind. -/
example : (Value.int 1).walk "class.nope.length" = .error (.unresolvedPath "class.nope.length" "nope" "class") := rfl

end JavaSource.Value
