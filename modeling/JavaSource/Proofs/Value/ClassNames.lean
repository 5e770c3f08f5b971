import JavaSource.Proofs.Basic
import JavaSource.Proofs.Listing.Tidy
import JavaSource.Proofs.Template.Actions

/-!
# The two names of a class

A class descriptor spells its names by putting texts together.  As a qualified name it is taken apart into identifiers,
which are checked and joined again.  **Both ways lead to the same names**, as far as the package has no empty segments.

**Why.**  The simple names come back when they are joined by dots, and joined by dollar signs they are the text in which
every dot was replaced by one (`Text.join_dollar_splitOn`).  The package comes back if no segment of it was passed over
(`ClassRef.condensed_eq_self_iff`).  If some were, the qualified name is that of the descriptor without them
(`ClassRef.namedBy_condensed`).

**In a template** a class is written alike whether its name is asked for by an action or by a path of members.
-/

namespace JavaSource

/-! ## Joining -/

namespace Text

lemma join_eq_nil_iff {separator : Text} {parts : List Text} (h : [] ∉ parts) :
    join separator parts = [] ↔ parts = [] := by
  cases parts with
  | nil => simp [join]
  | cons part rest =>
      rw [List.mem_cons, not_or] at h
      obtain ⟨d, ds, rfl⟩ := List.exists_cons_of_ne_nil (Ne.symm h.1)
      simp [join, List.intercalate_cons_cons_left]

/-- The segments of a text, joined by dollar signs. -/
lemma join_dollar_splitOn (t : Text) : join "$" (t.splitOn '.') = t.map fun d => if d = '.' then '$' else d := by
  induction t with
  | nil => rfl
  | cons d t ih =>
      rw [List.splitOn_cons_eq_if_modifyHead, List.map_cons, ← ih]
      by_cases hd : d = '.'
      · rw [hd, if_pos (beq_self_eq_true _), if_pos rfl, join, List.intercalate_cons_of_ne_nil (List.splitOn_ne_nil _ _)]
        rfl
      · obtain ⟨first, rest, hsplit⟩ := List.exists_cons_of_ne_nil (List.splitOn_ne_nil '.' t)
        rw [if_neg (by simpa using hd), if_neg hd, hsplit, List.modifyHead_cons, join,
          List.intercalate_cons_cons_left]
        rfl

end Text

/-! ## Descriptors as names -/

namespace ClassRef

variable {c : ClassRef} {q : Name}

/-- The package is empty, or none of its segments is. -/
def Dotted (c : ClassRef) : Prop := c.package = [] ∨ [] ∉ c.package.splitOn '.'

/-- The descriptor without the empty segments of its package. -/
def condensed (c : ClassRef) : ClassRef := ⟨Text.join "." (Name.packageIdentifiers c.package), c.simple⟩

/-- The name is spelled like the descriptor in all forms that have a package. -/
structure NamedBy (c : ClassRef) (q : Name) : Prop where
  canonical : q.canonical = c.canonicalName
  binary : q.binary = c.binaryName
  package : q.package = c.package

lemma qualifiedName_eq_ok (h : c.qualifiedName = .ok q) :
    q = ⟨Name.packageIdentifiers c.package ++ c.simple.splitOn '.', (Name.packageIdentifiers c.package).length, false⟩ ∧
      q.WellFormed := by
  simp only [qualifiedName, Name.ofType] at h
  split at h
  · cases h
  · exact Name.make_eq_ok h

lemma nil_notMem_packageIdentifiers (package : Text) : [] ∉ Name.packageIdentifiers package := by
  simp [Name.packageIdentifiers]

lemma packageParts_eq (h : c.qualifiedName = .ok q) : q.packageParts = Name.packageIdentifiers c.package := by
  obtain ⟨rfl, -⟩ := qualifiedName_eq_ok h
  exact List.take_left

lemma simpleNames_eq (h : c.qualifiedName = .ok q) : q.simpleNames = c.simple.splitOn '.' := by
  obtain ⟨rfl, -⟩ := qualifiedName_eq_ok h
  exact List.drop_left

lemma package_eq (h : c.qualifiedName = .ok q) : q.package = c.condensed.package := by
  rw [Name.package, packageParts_eq h, condensed]

lemma last_eq (h : c.qualifiedName = .ok q) : q.last = c.simpleName := by
  obtain ⟨rfl, -⟩ := qualifiedName_eq_ok h
  have hlast := List.getLast?_eq_some_getLast (List.splitOn_ne_nil '.' c.simple)
  rw [Name.last, simpleName, List.getLast?_append, hlast]
  rfl

lemma canonical_eq (h : c.qualifiedName = .ok q) : q.canonical = c.condensed.canonicalName := by
  obtain ⟨rfl, -⟩ := qualifiedName_eq_ok h
  rw [Name.canonical, canonicalName, inPackage, condensed]
  by_cases hpackage : Name.packageIdentifiers c.package = []
  · simp only [hpackage, List.nil_append, Text.join_splitOn]
    rfl
  · have hne : Text.join "." (Name.packageIdentifiers c.package) ≠ [] :=
      (Text.join_eq_nil_iff (nil_notMem_packageIdentifiers c.package)).not.mpr hpackage
    rw [Text.join_append hpackage (List.splitOn_ne_nil _ _), Text.join_splitOn, if_neg (by simpa using hne)]

lemma simple_ne_nil (h : c.qualifiedName = .ok q) : c.simple ≠ [] := by
  intro hsimple
  obtain ⟨rfl, hq⟩ := qualifiedName_eq_ok h
  have hvalid := hq.valid [] (by simp [hsimple])
  simp [Identifier.isValid] at hvalid

lemma binary_eq (h : c.qualifiedName = .ok q) : q.binary = c.condensed.binaryName := by
  have hmember : q.isMember = false := by rw [(qualifiedName_eq_ok h).1]
  have htypes : Text.join "$" q.typeParts = c.simple.map fun d => if d = '.' then '$' else d := by
    rw [Name.typeParts, hmember, if_neg Bool.false_ne_true, simpleNames_eq h, Text.join_dollar_splitOn]
  have hne : (c.simple.map fun d => if d = '.' then '$' else d).isEmpty = false := by simpa using simple_ne_nil h
  have hform : q.binary = q.package ++ (if q.package.isEmpty then [] else ".") ++
      c.simple.map fun d => if d = '.' then '$' else d := by
    simp only [Name.binary, htypes, hmember, hne, Bool.or_false, Bool.false_eq_true, if_false, List.append_nil]
  rw [hform, binaryName, inPackage, ← package_eq h]
  cases q.package with
  | nil => rfl
  | cons d ds => rw [List.append_assoc, List.append_assoc]; rfl

/-- **The name of a class is that of its descriptor** without the empty segments of the package. -/
lemma namedBy_condensed (h : c.qualifiedName = .ok q) : c.condensed.NamedBy q :=
  ⟨canonical_eq h, binary_eq h, package_eq h⟩

lemma condensed_eq_self_iff (h : c.qualifiedName = .ok q) : c.condensed = c ↔ c.Dotted := by
  constructor
  · intro hc
    have hpackage : Text.join "." (Name.packageIdentifiers c.package) = c.package := congrArg ClassRef.package hc
    by_cases hnil : Name.packageIdentifiers c.package = []
    · exact Or.inl (by rw [← hpackage, hnil]; rfl)
    · have hdots : ∀ part ∈ Name.packageIdentifiers c.package, '.' ∉ part := by
        obtain ⟨rfl, hq⟩ := qualifiedName_eq_ok h
        exact fun part hpart => hq.dot_notMem part (List.mem_append_left _ hpart)
      have hsplit : c.package.splitOn '.' = Name.packageIdentifiers c.package := by
        conv_lhs => rw [← hpackage]
        exact List.splitOn_intercalate '.' hdots hnil
      exact Or.inr (hsplit ▸ nil_notMem_packageIdentifiers c.package)
  · intro hc
    have hpackage : Text.join "." (Name.packageIdentifiers c.package) = c.package := by
      rcases hc with hnil | hsegments
      · rw [hnil]
        rfl
      · have hall : Name.packageIdentifiers c.package = c.package.splitOn '.' := by
          refine List.filter_eq_self.mpr fun part hpart => ?_
          have hne : part ≠ [] := ne_of_mem_of_not_mem hpart hsegments
          simpa using hne
        rw [hall, Text.join_splitOn]
    rw [condensed, hpackage]

lemma namedBy_iff (h : c.qualifiedName = .ok q) : c.NamedBy q ↔ c.Dotted := by
  rw [← condensed_eq_self_iff h]
  constructor
  · intro hnamed
    have hpackage : c.condensed.package = c.package := (package_eq h).symm.trans hnamed.package
    calc c.condensed = ⟨c.condensed.package, c.simple⟩ := rfl
      _ = c := by rw [hpackage]
  · intro hc
    have hnamed := namedBy_condensed h
    rwa [hc] at hnamed

end ClassRef

/-! ## Classes in templates -/

/-- Apart from the log, a name is appended like the text that the policy spells. -/
lemma Listing.drained_appendName {q : Name} (hq : q.WellFormed) (l : Listing) :
    (l.appendName q).drained = (l.appendText ((l.policy q).apply q)).drained := by
  rw [appendText_of_notMem (Style.newline_notMem_apply hq _)]
  rfl

namespace Action

variable {c : ClassRef} {q : Name} {l : Listing}

/-- Both actions succeed on the value, and leave listings that differ in the names logged at most. -/
structure Alike (a b : Action) (v : Value) (l : Listing) : Prop where
  left : (a.execute (some v) l).error? = none
  right : (b.execute (some v) l).error? = none
  drained : (a.execute (some v) l).listing.drained = (b.execute (some v) l).listing.drained

lemma alike_of_written {a b : Action} {v : Value} {f g : Fragment} (ha : a.consumes = true) (hb : b.consumes = true)
    (hf : a.written v = .ok f) (hg : b.written v = .ok g) (h : (f.emit l).drained = (g.emit l).drained) :
    Alike a b v l where
  left := by rw [execute_of_written ha hf]
  right := by rw [execute_of_written hb hg]
  drained := by rwa [execute_of_written ha hf, execute_of_written hb hg]

/-- A path to a member of a class writes what the member answers. -/
lemma written_member {member : Text} {f : ClassRef → Text} (c : ClassRef)
    (h : Value.classMembers.lookup member = some f) : written (.chain member) (.classRef c) = .ok (.text (f c)) := by
  have plain : ∀ m ∈ Value.classMembers.map Prod.fst, '.' ∉ m ∧ ¬ (m = "class" ∨ m = "getClass") := by decide
  obtain ⟨hdots, hclass⟩ := plain member (List.mem_map.mpr ⟨_, mem_of_lookup h, rfl⟩)
  have hstep : (Value.classRef c).step member = some (.text (f c)) := by
    rw [Value.step, Value.access, if_neg hclass, Value.ownMember, Value.classAccessor, h]
    rfl
  have hwalk : (Value.classRef c).walk member = .ok (.text (f c)) := by
    rw [Value.walk, List.splitOn_eq_singleton hdots, Value.walkAlong, hstep]
    rfl
  rw [written, hwalk]
  rfl

lemma written_name (h : c.qualifiedName = .ok q) : written .name (.classRef c) = .ok (.name q) := by
  rw [written, Value.toName, h]
  rfl

lemma written_type (h : c.qualifiedName = .ok q) : written .type (.classRef c) = .ok (TypeExpr.ofName q).fragment := by
  rw [written, typeFragment, Value.toName, h]
  · rfl
  · rintro t ⟨⟩

lemma written_binary (h : c.qualifiedName = .ok q) : written .binary (.classRef c) = .ok (.text q.binary) := by
  rw [written, Value.toName, h]
  rfl

/-- The name of a class is written like a text that the policy spells. -/
lemma alike_name {member : Text} {f : ClassRef → Text} (h : c.qualifiedName = .ok q)
    (hmember : Value.classMembers.lookup member = some f) (hspelled : (l.policy q).apply q = f c) :
    Alike .name (.chain member) (.classRef c) l ∧ Alike .type (.chain member) (.classRef c) l := by
  have hdrained : (l.appendName q).drained = ((Fragment.text (f c)).emit l).drained := by
    rw [Listing.drained_appendName (ClassRef.qualifiedName_eq_ok h).2, hspelled, Fragment.emit]
  have htype : (TypeExpr.ofName q).fragment.emit l = l.appendName q := by
    simp [TypeExpr.ofName, TypeExpr.fragment, TypeExpr.argumentList, Fragment.emit, Fragment.emitAll]
  refine ⟨alike_of_written rfl rfl (written_name h) (written_member c hmember) ?_,
    alike_of_written rfl rfl (written_type h) (written_member c hmember) ?_⟩
  · rwa [Fragment.emit]
  · rwa [htype]

end Action

namespace ClassRef

variable {c : ClassRef} {q : Name}

/-- **The two names of a class agree.**  The simple names always do.  The names with a package are those of the descriptor
without the empty segments of its package; so they agree exactly if the package is empty or has no empty segment.  Then
a template writes the class alike by an action and by a path of members, as long as the policy does not shorten it; and
if it is written by its last identifier, then like its simple name. -/
theorem class_names_agree (c : ClassRef) (q : Name) (h : c.qualifiedName = .ok q) :
    q.last = c.simpleName ∧ c.condensed.NamedBy q ∧ (c.NamedBy q ↔ c.Dotted) ∧
      ∀ l : Listing,
        ((l.policy q).apply q = q.last → Action.Alike .name (.chain "simpleName") (.classRef c) l ∧
          Action.Alike .type (.chain "simpleName") (.classRef c) l) ∧
        (c.Dotted → Action.Alike .binary (.chain "name") (.classRef c) l ∧
          ((l.policy q).apply q = q.canonical → Action.Alike .name (.chain "canonicalName") (.classRef c) l ∧
            Action.Alike .type (.chain "canonicalName") (.classRef c) l)) := by
  refine ⟨last_eq h, namedBy_condensed h, namedBy_iff h, fun l => ⟨fun hspelled => ?_, fun hc => ⟨?_, fun hspelled => ?_⟩⟩⟩
  · exact Action.alike_name h rfl (hspelled.trans (last_eq h))
  · have hbinary := ((namedBy_iff h).mpr hc).binary
    exact Action.alike_of_written rfl rfl (Action.written_binary h) (Action.written_member (f := binaryName) c rfl)
      (by rw [hbinary])
  · exact Action.alike_name h rfl (hspelled.trans ((namedBy_iff h).mpr hc).canonical)

/-- A nested class, on its own, and written in a listing that is indented. -/
theorem class_names_agree_entry :
    let c : ClassRef := ⟨"java.util", "Map.Entry"⟩
    let q : Name := ⟨["java", "util", "Map", "Entry"], 2, false⟩
    let l : Listing := { depth := 1 }
    c.qualifiedName = .ok q ∧ c.NamedBy q ∧ q.last = c.simpleName ∧ c.binaryName = "java.util.Map$Entry" ∧
      Action.Alike .name (.chain "canonicalName") (.classRef c) l ∧
      Action.Alike .binary (.chain "name") (.classRef c) l ∧
      Action.Alike .type (.chain "simpleName") (.classRef c) (l.withPolicy (.constant .last)) := by
  intro c q l
  have hq : c.qualifiedName = .ok q := by decide +kernel
  have hc : c.Dotted := Or.inr (by decide)
  obtain ⟨hlast, -, hnamed, hwritten⟩ := class_names_agree c q hq
  obtain ⟨hbinary, hname⟩ := (hwritten l).2 hc
  exact ⟨hq, hnamed.mpr hc, hlast, by decide, (hname rfl).1, hbinary, ((hwritten _).1 rfl).2⟩

/-- **An empty segment of a package is passed over** by the qualified name, and stays in the names that the descriptor
spells. -/
theorem empty_segment_passed_over :
    ¬ ∀ (c : ClassRef) (q : Name), c.qualifiedName = .ok q → q.canonical = c.canonicalName ∧ q.binary = c.binaryName ∧
      q.package = c.package ∧ q.last = c.simpleName := by
  intro hagree
  have hq : (ClassRef.mk "java..util" "List").qualifiedName = .ok ⟨["java", "util", "List"], 2, false⟩ := by
    decide +kernel
  exact absurd (hagree _ _ hq).1 (by decide)

end ClassRef

end JavaSource
