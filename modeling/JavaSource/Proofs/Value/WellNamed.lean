import JavaSource.Template.Bindings
import JavaSource.Proofs.Basic
import JavaSource.Proofs.Listing.Simulation
import JavaSource.Proofs.Template.Actions

/-!
# The names in values

A name that is built by `Name.make`, directly or through one of the other constructors, is well-formed.  A value is
**well-named** if all names in it are: those of its types and fragments, and, for an object, those of everything that
its accessor answers.

Following a path leads from a well-named value to a well-named value (`Value.WellNamed.walk`), and what an action writes
for a well-named value has well-formed names only (`Action.wellFormed_written`).
-/

namespace JavaSource

/-- All names in the value are well-formed. -/
inductive Value.WellNamed : Value → Prop
  | null : WellNamed .null
  | bool (b : Bool) : WellNamed (.bool b)
  | int (n : Int32) : WellNamed (.int n)
  | long (n : Int64) : WellNamed (.long n)
  | double (d : Float) : WellNamed (.double d)
  | char (c : Char) : WellNamed (.char c)
  | text (t : Text) : WellNamed (.text t)
  | name {n : Name} (hn : n.WellFormed) : WellNamed (.name n)
  | type {t : TypeExpr} (ht : ∀ n ∈ t.fragment.names, n.WellFormed) : WellNamed (.type t)
  | classRef (c : ClassRef) : WellNamed (.classRef c)
  | fragment {f : Fragment} (hf : ∀ n ∈ f.names, n.WellFormed) : WellNamed (.fragment f)
  | object (c : ClassRef) {accessor : Text → Option Value}
      (h : ∀ member v, accessor member = some v → WellNamed v) : WellNamed (.object c accessor)

/-- All names in the values are well-formed. -/
structure Bindings.WellNamed (b : Bindings) : Prop where
  positional : ∀ v ∈ b.positional, v.WellNamed
  named : ∀ entry ∈ b.named, entry.2.WellNamed

namespace Value

attribute [simp] WellNamed.null WellNamed.bool WellNamed.int WellNamed.long WellNamed.double WellNamed.char
  WellNamed.text WellNamed.classRef

variable {v w : Value}

/-! ## Members -/

lemma wellNamed_of_ofCount? {n : Nat} (h : ofCount? n = some v) : v.WellNamed := by
  simp only [ofCount?, Option.ite_none_right_eq_some, Option.some.injEq] at h
  rw [← h.2]
  exact .int _

lemma wellNamed_textMembers : ∀ entry ∈ textMembers, ∀ (t : Text) (v : Value), entry.2 t = some v → v.WellNamed := by
  have hlength : ∀ (t : Text) (v : Value), ofCount? t.length = some v → v.WellNamed :=
    fun _ _ h => wellNamed_of_ofCount? h
  simpa [textMembers] using hlength

/-- Of the members of a name, only those that lead to another name have to be looked at. -/
lemma wellNamed_nameMembers : ∀ entry ∈ nameMembers, ∀ (n : Name) (v : Value), n.WellFormed →
    entry.2 n = some v → v.WellNamed := by
  have henclosing : ∀ (n : Name) (v : Value), n.WellFormed → ∀ outer, n.enclosing? = some outer →
      Value.name outer = v → v.WellNamed := by
    rintro n _ hn outer he rfl
    exact .name (hn.enclosing he)
  have htop : ∀ (n : Name) (v : Value), n.WellFormed → ∀ top, n.topLevel? = some top →
      Value.name top = v → v.WellNamed := by
    rintro n _ hn top ht rfl
    exact .name (hn.topLevel ht)
  have hsize : ∀ (n : Name) (v : Value), n.WellFormed → ofCount? n.size = some v → v.WellNamed :=
    fun _ _ _ h => wellNamed_of_ofCount? h
  simpa [nameMembers] using ⟨henclosing, htop, hsize⟩

lemma wellNamed_classAccessor {c : ClassRef} {member : Text} (h : classAccessor c member = some v) : v.WellNamed := by
  obtain ⟨f, -, rfl⟩ := Option.map_eq_some_iff.mp h
  exact .text _

lemma WellNamed.ownMember (h : v.WellNamed) {member : Text} (hw : v.ownMember member = some w) : w.WellNamed := by
  have plain : ∀ t : Text, (if member = "toString" then some (.text t) else none) = some w → w.WellNamed := by
    intro t ht
    obtain ⟨-, ht⟩ := Option.ite_none_right_eq_some.mp ht
    rw [← Option.some.inj ht]
    exact .text t
  cases h with
  | text t =>
      obtain ⟨entry, hentry, hv⟩ := exists_of_lookup hw
      exact wellNamed_textMembers entry hentry t w hv
  | @name n hn =>
      obtain ⟨entry, hentry, hv⟩ := exists_of_lookup hw
      exact wellNamed_nameMembers entry hentry n w hn hv
  | classRef c => exact wellNamed_classAccessor hw
  | object c h => exact h member w hw
  | bool b => exact plain _ hw
  | int n => exact plain _ hw
  | long n => exact plain _ hw
  | double d => exact plain _ hw
  | char c => exact plain _ hw
  | null => cases hw
  | type => cases hw
  | fragment => cases hw

lemma WellNamed.access (h : v.WellNamed) {member : Text} (hw : v.access member = some w) : w.WellNamed := by
  unfold Value.access at hw
  split at hw
  · obtain ⟨c, -, rfl⟩ := Option.map_eq_some_iff.mp hw
    exact .classRef c
  · exact h.ownMember hw

/-- **A path leads to well-named values only.** -/
lemma WellNamed.walk (h : v.WellNamed) {path : Text} (hw : v.walk path = .ok w) : w.WellNamed := by
  have along : ∀ (segments : List Text) (v : Value), v.WellNamed → walkAlong path segments v = .ok w →
      w.WellNamed := by
    intro segments
    induction segments with
    | nil =>
        rintro v hv ⟨⟩
        exact hv
    | cons segment rest ih =>
        intro v hv hw
        simp only [walkAlong] at hw
        split at hw
        · rename_i next hnext
          refine ih next ?_ hw
          unfold step at hnext
          split at hnext
          · rename_i hfound
            cases hnext
            exact hv.access hfound
          · exact hv.access hnext
        · cases hw
  exact along _ v h hw

/-! ## Values as names and as fragments -/

lemma WellNamed.represented (h : v.WellNamed) (hw : v.represented = .ok w) : w.WellNamed := by
  unfold Value.represented at hw
  split at hw
  · split at hw
    · cases hw
    · cases hw
    · rename_i hfound
      cases hw
      exact h.access hfound
  · cases hw
    exact h

lemma wellFormed_qualifiedName {c : ClassRef} {n : Name} (h : c.qualifiedName = .ok n) : n.WellFormed := by
  simp only [ClassRef.qualifiedName, Name.ofType] at h
  split at h
  · cases h
  · exact (Name.make_eq_ok h).2

/-- **The name that a well-named value denotes is well-formed.** -/
lemma WellNamed.toName (h : v.WellNamed) {action : Text} {n : Name} (hn : v.toName action = .ok n) :
    n.WellFormed := by
  cases h with
  | name hn' =>
      cases hn
      exact hn'
  | classRef c => exact wellFormed_qualifiedName (eq_ok_of_mapError hn)
  | text t => exact Name.Parsed.conventional ⟨t, eq_ok_of_mapError hn⟩ |>.toWellFormed
  | @type t ht =>
      cases t with
      | generic m arguments =>
          cases hn
          exact ht n (by simp [TypeExpr.fragment, Fragment.names, Fragment.namesAll])
      | _ => cases hn
  | _ => cases hn

lemma WellNamed.toFragment (h : v.WellNamed) {f : Fragment} (hf : v.toFragment = .ok f) :
    ∀ n ∈ f.names, n.WellFormed := by
  unfold Value.toFragment at hf
  split at hf
  · cases hf
  · rename_i hw
    cases hf
    cases h.represented hw with
    | name hn => simpa [Fragment.names] using hn
  · rename_i hw
    cases hf
    cases h.represented hw with
    | type ht => exact ht
  · obtain ⟨n, hn, rfl⟩ := exists_of_map_eq_ok hf
    simpa [Fragment.names] using wellFormed_qualifiedName (eq_ok_of_mapError hn)
  · rename_i hw
    cases hf
    cases h.represented hw with
    | fragment hf => exact hf
  · cases hf
    simp [Fragment.names]

end Value

namespace Action

variable {v : Value} {f : Fragment}

lemma wellFormed_typeFragment (h : v.WellNamed) (hf : typeFragment v = .ok f) : ∀ n ∈ f.names, n.WellFormed := by
  unfold typeFragment at hf
  split at hf
  · cases hf
    cases h with
    | type ht => exact ht
  · obtain ⟨n, hn, rfl⟩ := exists_of_map_eq_ok hf
    simpa [TypeExpr.ofName, TypeExpr.fragment, TypeExpr.argumentList, Fragment.names, Fragment.namesAll]
      using h.toName hn

/-- **What an action writes for a well-named value has well-formed names.** -/
lemma wellFormed_written {a : Action} (h : v.WellNamed) (hf : a.written v = .ok f) :
    ∀ n ∈ f.names, n.WellFormed := by
  have nameless : ∀ {ε : Type} {x : Except ε Text} {f : Fragment}, x.map Fragment.text = .ok f →
      ∀ n ∈ f.names, n.WellFormed := by
    intro ε x f hf
    obtain ⟨t, -, rfl⟩ := exists_of_map_eq_ok hf
    simp [Fragment.names]
  cases a with
  | raw => exact nameless hf
  | literal => exact nameless hf
  | fragment => exact h.toFragment hf
  | name =>
      obtain ⟨n, hn, rfl⟩ := exists_of_map_eq_ok hf
      simpa [Fragment.names] using h.toName hn
  | type => exact wellFormed_typeFragment h hf
  | binary =>
      obtain ⟨n, -, rfl⟩ := exists_of_map_eq_ok hf
      simp [Fragment.names]
  | chain path =>
      simp only [written] at hf
      split at hf
      · rename_i hw
        exact (h.walk hw).toFragment hf
      · cases hf
  | _ =>
      cases hf
      simp [Fragment.names]

end Action

/-- A selected value is one of the values. -/
lemma Bindings.WellNamed.select {b : Bindings} (h : b.WellNamed) {s : Selector} {v : Value} (hv : b.select s = .ok v) :
    v.WellNamed := by
  have hget : b.get? s = some v := by
    unfold Bindings.select at hv
    split at hv
    · rename_i hget
      cases hv
      exact hget
    · cases hv
  unfold Bindings.get? at hget
  split at hget
  · split at hget
    · rename_i hfound
      cases hget
      exact h.positional v (List.mem_of_getElem? hfound)
    · exact h.named _ (mem_of_lookup hget)
  · exact h.named _ (mem_of_lookup hget)

end JavaSource
