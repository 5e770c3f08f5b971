import JavaSource.Proofs.Listing.Reproduced
import JavaSource.Proofs.Value.ClassNames
import JavaSource.Proofs.Value.WellNamed

/-!
# Values as text and as fragments

A value can be written as a fragment, with its names and blocks, or as its raw text.  With names in full, **both write the
same text**.

**Why.**  The raw text of a value is the text that its fragment has in a listing of its own (`Value.list_of_toFragment`);
for a class this takes that its two names agree, so its package must have no empty segments.  And a text that a listing
made is made again when it is appended to a fresh one (`Listing.Tidy.text_appendText_text`), the line that is not
completed included, whatever the depth at which it stood.
-/

namespace JavaSource

namespace Value

variable {v w : Value} {f : Fragment}

/-- A name on its own is its canonical text. -/
lemma list_name (n : Name) : (Fragment.name n).list = n.canonical := by
  have happly : Style.canonical.apply n = n.canonical := by
    rw [Style.apply]
    split
    · rfl
    · rfl
  have htext : (({} : Listing).appendName n).text = Style.canonical.apply n := Listing.text_of_depth rfl
  rw [Fragment.list, Fragment.render, Fragment.emit, htext, happly]

/-- **The raw text of a value** is the text of its fragment, or what the fragment consists of. -/
lemma list_of_toFragment (hclass : ∀ c, v.represented = .ok (.classRef c) → c.Dotted) (hf : v.toFragment = .ok f) :
    ∃ t, v.raw = .ok t ∧ (t = f.list ∨ f = .text t) := by
  unfold toFragment at hf
  split at hf
  · cases hf
  · rename_i n hw
    cases hf
    exact ⟨n.canonical, by rw [raw, hw]; rfl, Or.inl (list_name n).symm⟩
  · rename_i t hw
    cases hf
    exact ⟨t.fragment.list, by rw [raw, hw]; rfl, Or.inl rfl⟩
  · rename_i c hw
    obtain ⟨q, hq, rfl⟩ := exists_of_map_eq_ok hf
    have hnamed := (ClassRef.namedBy_iff (eq_ok_of_mapError hq)).mpr (hclass c hw)
    exact ⟨c.canonicalName, by rw [raw, hw]; rfl, Or.inl (by rw [list_name, hnamed.canonical])⟩
  · rename_i hw
    cases hf
    exact ⟨f.list, by rw [raw, hw]; rfl, Or.inl rfl⟩
  · rename_i w _ _ _ _ hw
    cases hf
    exact ⟨w.display, by rw [raw, hw]; rfl, Or.inr rfl⟩

/-- **Raw text and fragment agree.**  If a value can be written as a fragment, it can be written as raw text, and in a fresh
listing both leave the same text; except for a class, also one that stands for an object, whose package has empty
segments. -/
theorem raw_reads_as_fragment (v : Value) (hv : v.WellNamed)
    (hclass : ∀ c, v.represented = .ok (.classRef c) → c.Dotted)
    (h : (Action.fragment.execute (some v) {}).error? = none) :
    (Action.raw.execute (some v) {}).error? = none ∧
      (Action.raw.execute (some v) {}).listing.text = (Action.fragment.execute (some v) {}).listing.text := by
  cases hf : Action.fragment.written v with
  | error e =>
      rw [Action.execute_of_error rfl hf] at h
      cases h
  | ok f =>
      obtain ⟨t, ht, hlist⟩ := list_of_toFragment hclass hf
      have hraw : Action.raw.written v = .ok (.text t) := by
        rw [Action.written, ht]
        rfl
      rw [Action.execute_of_written rfl hf, Action.execute_of_written rfl hraw]
      refine ⟨rfl, ?_⟩
      rcases hlist with rfl | rfl
      · have htidy : (f.emit {}).Tidy := Listing.simulation_tidy.emit f (m := {}) (hv.toFragment hf)
          (Listing.tidy_of_isEmpty rfl)
        exact htidy.text_appendText_text
      · rfl

/-- An object that stands for a fragment whose last line is begun in a block, deeper in than where the block ends, and one
that stands for a nested class. -/
theorem raw_reads_as_fragment_unfinished :
    let list : Name := ⟨["java", "util", "List"], 2, false⟩
    let f : Fragment :=
      .sequence [.text "a\n\n\n", .block "b \x7b" [.name list, .newline, .indent 1, .text "c"] none]
    let entry : ClassRef := ⟨"java.util", "Map.Entry"⟩
    let shown : Value → Value := fun w => .object ⟨"a", "B"⟩ fun member => if member = "toString" then some w else none
    (shown (.fragment f)).WellNamed ∧ (shown (.classRef entry)).WellNamed ∧ entry.Dotted ∧
      (Action.fragment.execute (some (shown (.fragment f))) {}).error? = none ∧
      (Action.fragment.execute (some (shown (.classRef entry))) {}).error? = none ∧
      (Action.fragment.execute (some (shown (.fragment f))) {}).listing.text =
        "a\n\nb \x7b\n    java.util.List\n    c" ∧
      (Action.raw.execute (some (shown (.fragment f))) {}).listing.text =
        "a\n\nb \x7b\n    java.util.List\n    c" ∧
      (Action.raw.execute (some (shown (.classRef entry))) {}).listing.text =
        (Action.fragment.execute (some (shown (.classRef entry))) {}).listing.text := by
  intro list f entry shown
  have hshown : ∀ w : Value, w.WellNamed → (shown w).WellNamed := by
    refine fun w hw => .object _ fun member u hu => ?_
    obtain ⟨-, hu⟩ := Option.ite_none_right_eq_some.mp hu
    rwa [← Option.some.inj hu]
  have hlist : list.WellFormed := (Name.make_eq_ok (rfl : Name.make list.identifiers 2 false = .ok list)).2
  have hf : (shown (.fragment f)).WellNamed :=
    hshown _ (.fragment (by simpa [f, Fragment.names, Fragment.namesAll] using hlist))
  have hentry : (shown (.classRef entry)).WellNamed := hshown _ (.classRef entry)
  have hdotted : entry.Dotted := Or.inr (by decide)
  have hfragment : (Action.fragment.execute (some (shown (.fragment f))) {}).error? = none := by rfl
  have hclass : (Action.fragment.execute (some (shown (.classRef entry))) {}).error? = none := by decide +kernel
  have htext : (Action.fragment.execute (some (shown (.fragment f))) {}).listing.text =
      "a\n\nb \x7b\n    java.util.List\n    c" := by decide +kernel
  have hraw := raw_reads_as_fragment _ hf (fun c hc => by cases hc) hfragment
  have hrawClass := raw_reads_as_fragment _ hentry (fun c hc => by cases hc; exact hdotted) hclass
  exact ⟨hf, hentry, hdotted, hfragment, hclass, htext, hraw.2.trans htext, hrawClass.2⟩

end Value

end JavaSource
