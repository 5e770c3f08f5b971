import JavaSource.Listing.Fragment
import JavaSource.Proofs.Listing.Characters
import JavaSource.Proofs.Name.Division
import JavaSource.Proofs.Text.Occurrence

/-!
# Writing the same into two listings

The same source is often written twice: with names in full and with names as decided, or under two policies.  This
file compares the two listings.

**Simulations.**  All writing is made of four operations: text without line breaks is pushed, a line is completed, the
depth is moved, a name is appended.  A relation between listings that these four keep is a `Simulation`, and it is kept
by text with line breaks, by fragments (`Simulation.emit`) and by whatever else writes.

**Two simulations.**  Under policies that spell the names of a fragment alike the two listings are the same but for the
policy (`Fragment.emit_withPolicy`).  Under any two policies they have the same layout: the same names are logged, and
lines are completed and left blank at the same places (`Listing.simulation_sameLayout`).  What makes the second one work
is that no style spells a well-formed name as an empty text (`Style.apply_ne_nil`), so a line with a name on it is
never blank.
-/

namespace JavaSource

/-! ## The names of a fragment -/

namespace Fragment

mutual

/-- The names of a fragment, in the order in which they are written. -/
def names : Fragment → List Name
  | .empty => []
  | .text _ => []
  | .name n => [n]
  | .newline => []
  | .indent _ => []
  | .block _ body _ => namesAll body
  | .sequence parts => namesAll parts

/-- The names of fragments one after the other. -/
def namesAll : List Fragment → List Name
  | [] => []
  | f :: rest => names f ++ namesAll rest

end

end Fragment

namespace Listing

@[simp] lemma names_push (t : Text) (l : Listing) : (l.push t).names = l.names := rfl

@[simp] lemma names_shift (delta : Int) (l : Listing) : (l.shift delta).names = l.names := rfl

@[simp] lemma names_newline (l : Listing) : l.newline.names = l.names := by
  unfold newline
  split
  · split <;> rfl
  · rfl

@[simp] lemma names_appendChar (c : Char) (l : Listing) : (l.appendChar c).names = l.names := by
  unfold appendChar
  split
  · exact names_newline l
  · rfl

@[simp] lemma names_appendText (t : Text) (l : Listing) : (l.appendText t).names = l.names :=
  appendText_keeps names_appendChar t l

end Listing

namespace Fragment

@[simp] lemma names_close (closing : Option Text) (l : Listing) : (close closing l).names = l.names := by
  cases closing with
  | none => rfl
  | some t => simp [close]

mutual

/-- **Emitting a fragment logs its names.** -/
lemma names_emit : ∀ (f : Fragment) (l : Listing), (f.emit l).names = l.names ++ f.names
  | .empty, l => by simp [emit, names]
  | .text t, l => by simp [emit, names]
  | .name n, l => by simp [emit, names, Listing.appendName]
  | .newline, l => by simp [emit, names]
  | .indent delta, l => by simp [emit, names]
  | .block header body closing, l => by simp [emit, names, names_emitAll body]
  | .sequence parts, l => by simp [emit, names, names_emitAll parts]

lemma names_emitAll : ∀ (fs : List Fragment) (l : Listing), (emitAll fs l).names = l.names ++ namesAll fs
  | [], l => by simp [emitAll, namesAll]
  | f :: rest, l => by simp [emitAll, namesAll, names_emit f, names_emitAll rest]

end

end Fragment

/-! ## Simulations -/

namespace Listing

/-- A relation between two listings that writing keeps, as long as the names that are appended satisfy `P`. -/
structure Simulation (P : Name → Prop) (R : Listing → Listing → Prop) : Prop where
  push : ∀ {l m : Listing} {t : Text}, '\n' ∉ t → R l m → R (l.push t) (m.push t)
  newline : ∀ {l m : Listing}, R l m → R l.newline m.newline
  shift : ∀ {l m : Listing} (delta : Int), R l m → R (l.shift delta) (m.shift delta)
  appendName : ∀ {l m : Listing} {n : Name}, P n → R l m → R (l.appendName n) (m.appendName n)

namespace Simulation

variable {P : Name → Prop} {R : Listing → Listing → Prop} {l m : Listing}

lemma appendChar (sim : Simulation P R) (c : Char) (h : R l m) : R (l.appendChar c) (m.appendChar c) := by
  unfold Listing.appendChar
  split
  · exact sim.newline h
  · rename_i hc
    exact sim.push (by simpa using fun h => hc h.symm) h

lemma appendText (sim : Simulation P R) (t : Text) (h : R l m) : R (l.appendText t) (m.appendText t) :=
  appendText_related (fun c _ _ h => sim.appendChar c h) t h

lemma close (sim : Simulation P R) (closing : Option Text) (h : R l m) :
    R (Fragment.close closing l) (Fragment.close closing m) := by
  cases closing with
  | none => exact h
  | some t => exact sim.newline (sim.appendText t h)

mutual

/-- **Fragments keep what the four operations keep.** -/
lemma emit (sim : Simulation P R) : ∀ (f : Fragment) {l m : Listing}, (∀ n ∈ f.names, P n) → R l m →
    R (f.emit l) (f.emit m)
  | .empty, _, _, _, h => by
      simp only [Fragment.emit]
      exact h
  | .text t, _, _, _, h => by
      simp only [Fragment.emit]
      exact sim.appendText t h
  | .name n, _, _, hn, h => by
      simp only [Fragment.emit]
      exact sim.appendName (hn n (by simp [Fragment.names])) h
  | .newline, _, _, _, h => by
      simp only [Fragment.emit]
      exact sim.newline h
  | .indent delta, _, _, _, h => by
      simp only [Fragment.emit]
      exact sim.shift delta h
  | .block header body closing, _, _, hn, h => by
      simp only [Fragment.emit]
      have hopen := sim.shift 1 (sim.newline (sim.appendText header h))
      have hbody := sim.emitAll body (fun n hmem => hn n (by simpa only [Fragment.names] using hmem)) hopen
      exact sim.close closing (sim.shift (-1) hbody)
  | .sequence parts, _, _, hn, h => by
      simp only [Fragment.emit]
      exact sim.emitAll parts (fun n hmem => hn n (by simpa only [Fragment.names] using hmem)) h

lemma emitAll (sim : Simulation P R) : ∀ (fs : List Fragment) {l m : Listing}, (∀ n ∈ Fragment.namesAll fs, P n) →
    R l m → R (Fragment.emitAll fs l) (Fragment.emitAll fs m)
  | [], _, _, _, h => by
      simp only [Fragment.emitAll]
      exact h
  | f :: rest, _, _, hn, h => by
      simp only [Fragment.emitAll]
      simp only [Fragment.namesAll, List.mem_append] at hn
      exact sim.emitAll rest (fun n hmem => hn n (Or.inr hmem)) (sim.emit f (fun n hmem => hn n (Or.inl hmem)) h)

end

end Simulation

/-! ## Policies that spell alike -/

/-- Two policies write the same, as long as they spell the appended names alike. -/
lemma simulation_withPolicy (p q : Policy) : Simulation (fun n => (q n).apply n = (p n).apply n)
    (fun l m => l.policy = p ∧ m = l.withPolicy q) where
  push := by
    rintro l _ t - ⟨hp, rfl⟩
    exact ⟨hp, rfl⟩
  newline := by
    rintro l _ ⟨hp, rfl⟩
    by_cases hline : l.line = []
    · by_cases hlast : l.lines.getLast? = some []
      · simp [newline, withPolicy, hline, hlast, hp]
      · simp [newline, withPolicy, hline, hlast, hp]
    · simp [newline, withPolicy, indented, hline, hp]
  shift := by
    rintro l _ delta ⟨hp, rfl⟩
    exact ⟨hp, rfl⟩
  appendName := by
    rintro l _ n hn ⟨rfl, rfl⟩
    refine ⟨rfl, ?_⟩
    simp only [Listing.appendName, withPolicy, hn]

end Listing

/-- **A fragment under two policies that spell its names alike**: only the policy differs. -/
lemma Fragment.emit_withPolicy (f : Fragment) (l : Listing) (q : Policy)
    (h : ∀ n ∈ f.names, (q n).apply n = (l.policy n).apply n) : f.emit (l.withPolicy q) = (f.emit l).withPolicy q :=
  ((Listing.simulation_withPolicy l.policy q).emit f h ⟨rfl, rfl⟩).2

/-! ## Layout -/

/-- No style leaves a well-formed name without a text. -/
lemma Style.apply_ne_nil {n : Name} (hn : n.WellFormed) (s : Style) : s.apply n ≠ [] := by
  rw [apply_eq_join]
  obtain ⟨i, rest, hparts⟩ := List.exists_cons_of_ne_nil (parts_ne_nil hn s)
  have hi : i ≠ [] := by
    rintro rfl
    have := hn.valid [] (parts_subset hn s (hparts ▸ List.mem_cons_self ..))
    simp [Identifier.isValid] at this
  rw [hparts]
  cases rest with
  | nil => simpa [Text.join] using hi
  | cons j rest => simp [Text.join, List.intercalate_cons_cons, hi]

namespace Listing

/-- The listings log the same names, stand at the same depth, and have blank lines at the same places. -/
structure SameLayout (l m : Listing) : Prop where
  names : m.names = l.names
  depth : m.depth = l.depth
  /-- As many lines are completed, and the same ones are blank. -/
  blanks : m.lines.map List.isEmpty = l.lines.map List.isEmpty
  /-- Both lines being written are blank, or neither is. -/
  line : m.line.isEmpty = l.line.isEmpty

lemma SameLayout.newline {l m : Listing} (h : l.SameLayout m) : l.newline.SameLayout m.newline := by
  have hlast : (m.lines.getLast? = some []) ↔ (l.lines.getLast? = some []) := by
    have hmap := congrArg List.getLast? h.blanks
    simp only [List.getLast?_map] at hmap
    have blank : ∀ o : Option Text, o = some [] ↔ o.map List.isEmpty = some true := by
      intro o
      cases o <;> simp
    rw [blank, blank, hmap]
  simp only [Listing.newline, h.line]
  split
  · simp only [hlast]
    split
    · exact h
    · exact ⟨h.names, h.depth, by simp only [List.map_append, h.blanks], h.line⟩
  · rename_i hline
    have hblank : ∀ l : Listing, l.line.isEmpty = false → l.indented.isEmpty = false := by
      intro l hl
      simp_all [indented]
    have hline' : l.line.isEmpty = false := by simpa using hline
    refine ⟨h.names, h.depth, ?_, rfl⟩
    simp only [List.map_append, List.map_cons, List.map_nil, h.blanks, hblank l hline', hblank m (h.line.trans hline')]

lemma isEmpty_append (s t : Text) : (s ++ t).isEmpty = (s.isEmpty && t.isEmpty) := by
  cases s <;> simp

/-- **Under any two policies the layout is the same.** -/
lemma simulation_sameLayout : Simulation Name.WellFormed SameLayout where
  push := by
    intro l m t _ h
    refine ⟨h.names, h.depth, h.blanks, ?_⟩
    simp only [push, isEmpty_append, h.line]
  newline := SameLayout.newline
  shift := by
    intro l m delta h
    refine ⟨h.names, ?_, h.blanks, h.line⟩
    simp only [shift, h.depth]
  appendName := by
    intro l m n hn h
    have hspelled : ∀ s : Style, (s.apply n).isEmpty = false := by
      intro s
      simpa using Style.apply_ne_nil hn s
    refine ⟨?_, h.depth, h.blanks, ?_⟩
    · simp only [appendName, h.names]
    · simp only [appendName, isEmpty_append, hspelled, Bool.and_false]

end Listing

end JavaSource
