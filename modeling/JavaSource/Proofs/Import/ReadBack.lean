import JavaSource.Proofs.Import.Order
import JavaSource.Proofs.Listing.Tidy
import JavaSource.Proofs.Name.Canonical

/-!
# Declarations are read back

A declaration is written with keyword and semicolon, one on each line.  This file shows that **what is written is read
as what it was**, first a single declaration and then a whole table.

**One declaration.**  The reader looks for a beginning with a blank in it and for an ending with a star; a canonical text
has neither, so it cannot be taken for the wrong kind (`Import.Declarable.parse_text`).  What remains is the target.  A
name that was read is read again.  A static import of a single name may have turned a type into a member; its canonical
text is still that of the type, and reading makes the same member of it.

**A table.**  Its text is one line for each declaration (`ImportTable.list_fragment`).  Reading the lines adds the
declarations in the order in which they are written.  No set of a table holds a name twice (`ImportTable.Distinct`), so
each of them is new when it is added, and the sets are filled with the same names in another order.
-/

namespace JavaSource

namespace Import

variable {i : Import}

/-! ## One declaration -/

/-- Keyword and semicolon are taken off again. -/
lemma body_enclosed {written : Text} (hhead : ∀ c ∈ written.head?, Unicode.isBlank c = false)
    (hlast : ∀ c ∈ written.getLast?, Unicode.isBlank c = false) : body ("import " ++ written ++ ";") = written := by
  have hsemicolon : ∀ (t : Text), ∀ c ∈ (t ++ ";").getLast?, Unicode.isBlank c = false := by
    intro t c hc
    rw [show (";" : Text) = [';'] from rfl, List.getLast?_concat] at hc
    cases hc
    decide
  have hwhole : Text.trim ("import " ++ written ++ ";") = "import " ++ (written ++ ";") := by
    rw [← List.append_assoc]
    refine Text.trim_eq_self_of_ends ?_ (hsemicolon _)
    rintro c ⟨⟩
    decide
  have hrest : Text.trim (written ++ ";") = written ++ ";" := by
    refine Text.trim_eq_self_of_ends ?_ (hsemicolon _)
    intro c hc
    cases written with
    | nil =>
        cases hc
        decide
    | cons d ds => exact hhead c hc
  have hkeyword : Text.orSelf (Text.after? "import ") ("import " ++ (written ++ ";")) = written ++ ";" := by
    rw [Text.orSelf, Text.after?_append, Option.getD_some]
  have hending : Text.orSelf (Text.before? ";") (written ++ ";") = written := by
    rw [Text.orSelf, Text.before?_append, Option.getD_some]
  simp only [body, hwhole, hkeyword, hrest, hending, Text.trim_eq_self_of_ends hhead hlast]

/-- The identifiers of a static member are those of the name that it was made from. -/
lemma identifiers_staticMember {n m : Name} (hn : n.WellFormed) (h : staticMember n = .ok m) :
    m.identifiers = n.identifiers := by
  rcases staticMember_cases h with ⟨-, rfl⟩ | ⟨outer, henc, -, rfl, -⟩
  · rfl
  · obtain ⟨-, rfl⟩ := Name.enclosing?_eq_some henc
    simp only [hn.last_eq_getLast, List.dropLast_concat_getLast]

/-- What is left of a declaration of types. -/
lemma body_unblank {target : Text} (h : ∀ c ∈ target, Unicode.isBlank c = false) :
    body ("import " ++ target ++ ";") = target :=
  body_enclosed (fun c hc => h c (List.mem_of_mem_head? hc)) (fun c hc => h c (List.mem_of_mem_getLast? hc))

/-- What is left of a static declaration. -/
lemma body_static {target : Text} (h : ∀ c ∈ target, Unicode.isBlank c = false) (hne : target ≠ []) :
    body ("import " ++ ("static " ++ target) ++ ";") = "static " ++ target := by
  refine body_enclosed ?_ ?_
  · rintro c ⟨⟩
    decide
  · intro c hc
    rw [List.getLast?_append_of_ne_nil _ hne] at hc
    exact h c (List.mem_of_mem_getLast? hc)

/-- A target without blanks is not taken for that of a static declaration. -/
lemma after?_static {target : Text} (h : ∀ c ∈ target, Unicode.isBlank c = false) :
    Text.after? "static " target = none := by
  have hblank : ' ' ∉ target := fun hc => absurd (h ' ' hc) (by decide)
  exact Text.after?_eq_none (c := ' ') (by decide) hblank

/-- A canonical text does not end like a declaration on demand. -/
lemma before?_canonical {n : Name} (hn : n.WellFormed) : Text.before? ".*" n.canonical = none :=
  Text.before?_eq_none (c := '*') (by decide) (hn.notMem_canonical (by decide) (by decide))

lemma unblank_scope {n : Name} (hn : n.WellFormed) : ∀ c ∈ n.canonical ++ ".*", Unicode.isBlank c = false := by
  intro c hc
  rcases List.mem_append.mp hc with hc | hc
  · exact hn.unblank c hc
  · rw [show (".*" : Text) = ['.', '*'] from rfl, List.mem_pair] at hc
    rcases hc with rfl | rfl <;> decide

/-- **What was declared is read again as it was.** -/
lemma Declarable.parse_text (h : i.Declarable) : parse i.text = .ok i := by
  cases h with
  | @name kind n hkind hn =>
      have hwf := hn.conventional.toWellFormed
      cases kind with
      | singleStatic => exact absurd rfl hkind
      | singleType =>
          have htext : text ⟨.singleType, n⟩ = "import " ++ n.canonical ++ ";" := rfl
          simp only [htext, parse, body_unblank hwf.unblank, after?_static hwf.unblank, before?_canonical hwf,
            hn.parse_canonical, Except.map]
      | typesOnDemand =>
          have htext : text ⟨.typesOnDemand, n⟩ = "import " ++ (n.canonical ++ ".*") ++ ";" := by
            rw [show text ⟨.typesOnDemand, n⟩ = "import " ++ n.canonical ++ (".*" ++ ";") from rfl]
            simp only [List.append_assoc]
          simp only [htext, parse, body_unblank (unblank_scope hwf), after?_static (unblank_scope hwf),
            Text.before?_append, hn.parse_canonical, Except.map]
      | staticsOnDemand =>
          have htext : text ⟨.staticsOnDemand, n⟩ = "import " ++ ("static " ++ (n.canonical ++ ".*")) ++ ";" := by
            rw [show text ⟨.staticsOnDemand, n⟩ = "import " ++ "static " ++ n.canonical ++ (".*" ++ ";") from rfl]
            simp only [List.append_assoc]
          simp only [htext, parse, body_static (unblank_scope hwf) (by simp), Text.after?_append,
            Text.trim_eq_self (unblank_scope hwf), Text.before?_append, hn.parse_canonical, Except.map]
  | @member n m hn hs =>
      have hwf := (staticMember_eq_ok hn.conventional hs).1.toWellFormed
      have htext : text ⟨.singleStatic, m⟩ = "import " ++ ("static " ++ m.canonical) ++ ";" := by
        rw [show text ⟨.singleStatic, m⟩ = "import " ++ "static " ++ m.canonical ++ ";" from rfl]
        simp only [List.append_assoc]
      -- the member is written like the name that it was made from
      have hread : Name.parse m.canonical = .ok n := by
        rw [Name.canonical, identifiers_staticMember hn.conventional.toWellFormed hs]
        exact hn.parse_canonical
      simp only [htext, parse, body_static hwf.unblank hwf.canonical_ne_nil, Text.after?_append,
        Text.trim_eq_self hwf.unblank, before?_canonical hwf, hread, hs, Except.map]

/-- A declaration can stand on a line: it is not empty, and it contains no line break. -/
lemma Declarable.line (h : i.Declarable) : i.text ≠ [] ∧ '\n' ∉ i.text := by
  have htarget : '\n' ∉ i.target.canonical :=
    h.conventional.toWellFormed.notMem_canonical (by decide) (by decide)
  have hopening : '\n' ∉ i.kind.opening ∧ i.kind.opening ≠ [] ∧ '\n' ∉ i.kind.ending := by
    cases i.kind <;> decide
  refine ⟨by simp [text, hopening.2.1], ?_⟩
  simp only [text, List.mem_append, not_or]
  exact ⟨⟨hopening.1, htarget⟩, hopening.2.2⟩

end Import

/-! ## Lines -/

/-- The lines of a text.  A line break at its end completes the last line. -/
def Text.lines (t : Text) : List Text :=
  let parts := t.splitOn '\n'
  if parts.getLast? = some [] then parts.dropLast else parts

lemma Text.lines_flatMap {lines : List Text} (h : ∀ line ∈ lines, '\n' ∉ line) :
    Text.lines (lines.flatMap fun line => line ++ ['\n']) = lines := by
  have hsplit : (lines.flatMap fun line => line ++ ['\n']).splitOn '\n' = lines ++ [[]] := by
    rw [← Listing.splitOn_lines h (List.not_mem_nil), List.append_nil]
  simp only [Text.lines, hsplit, List.getLast?_concat, if_true, List.dropLast_concat]

/-- A line that is written where a line begins, without indentation. -/
lemma Fragment.emit_line {line : Text} (hne : line ≠ []) (hbreak : '\n' ∉ line) {l : Listing} (hline : l.line = [])
    (hdepth : l.depth = 0) : (Fragment.line line).emit l = { l with lines := l.lines ++ [line] } := by
  have htext : l.appendText line = l.push line := Listing.appendText_of_notMem hbreak l
  have hindent : l.indent.levels 0 = [] := by
    rw [Indent.levels_eq_flatten]
    rfl
  have hempty : line.isEmpty = false := by simpa using hne
  simp only [Fragment.line, emit, emitAll, htext, Listing.newline, Listing.push, Listing.indented, hline, hdepth,
    List.nil_append, hempty, hindent]
  rfl

/-- Lines are written one after the other. -/
lemma Fragment.emitAll_lines {lines : List Text} {l : Listing} (hlines : ∀ line ∈ lines, line ≠ [] ∧ '\n' ∉ line)
    (hline : l.line = []) (hdepth : l.depth = 0) :
    emitAll (lines.map Fragment.line) l = { l with lines := l.lines ++ lines } := by
  induction lines generalizing l with
  | nil => simp [emitAll]
  | cons line rest ih =>
      obtain ⟨⟨hne, hbreak⟩, hrest⟩ := List.forall_mem_cons.mp hlines
      rw [List.map_cons, emitAll, emit_line hne hbreak hline hdepth,
        ih (l := { l with lines := l.lines ++ [line] }) hrest hline hdepth]
      simp

namespace ImportTable

variable {t t' : ImportTable} {i : Import}

lemma Parsed.declarable_of_mem (ht : t.Parsed) (hi : i ∈ t.declarations) : i.Declarable :=
  ht.declarable (List.mem_mergeSort.mp hi)

lemma fragment_eq (t : ImportTable) : t.fragment = .sequence ((t.declarations.map Import.text).map Fragment.line) := by
  rw [fragment, List.map_map]
  rfl

/-- **The text of a table** has one line for each declaration. -/
lemma Parsed.lines_list (ht : t.Parsed) : Text.lines t.fragment.list = t.declarations.map Import.text := by
  have hlines : ∀ line ∈ t.declarations.map Import.text, line ≠ [] ∧ '\n' ∉ line := by
    intro line hline
    obtain ⟨i, hi, rfl⟩ := List.mem_map.mp hline
    exact (ht.declarable_of_mem hi).line
  have hlist : t.fragment.list = (t.declarations.map Import.text).flatMap fun line => line ++ ['\n'] := by
    rw [Fragment.list, Fragment.render, fragment_eq, Fragment.emit, Fragment.emitAll_lines hlines rfl rfl]
    simp [Listing.text]
  rw [hlist]
  exact Text.lines_flatMap fun line hline => (hlines line hline).2

/-! ## Tables without repetitions -/

/-- No set of the table holds a name twice. -/
def Distinct (t : ImportTable) : Prop := ∀ kind, (t.targets kind).Pairwise fun m n => m.canonical ≠ n.canonical

lemma Distinct.empty : Distinct {} := by
  intro kind
  cases kind <;> exact List.Pairwise.nil

lemma insertInto_of_new {n : Name} {names : List Name} (h : ∀ m ∈ names, m.canonical ≠ n.canonical) :
    n.insertInto names = names ++ [n] := by
  rw [Name.insertInto, if_neg]
  intro hin
  obtain ⟨m, hm, hcan⟩ := Name.isIn_iff.mp hin
  exact h m hm hcan

lemma pairwise_insertInto {n : Name} {names : List Name}
    (h : names.Pairwise fun m n => m.canonical ≠ n.canonical) :
    (n.insertInto names).Pairwise fun m n => m.canonical ≠ n.canonical := by
  unfold Name.insertInto
  split
  · exact h
  · rename_i hnot
    refine List.pairwise_append.mpr ⟨h, List.pairwise_singleton .., ?_⟩
    intro m hm k hk hcan
    rw [List.mem_singleton.mp hk] at hcan
    exact hnot (Name.isIn_iff.mpr ⟨m, hm, hcan⟩)

lemma Distinct.add (h : t.Distinct) (i : Import) : (t.add i).Distinct := by
  intro kind
  rw [targets_add]
  split
  · exact pairwise_insertInto (h kind)
  · exact h kind

lemma Distinct.ofDeclarations {declarations : List Text} (ht : t.Distinct)
    (h : ofDeclarations declarations t = .ok t') : t'.Distinct :=
  ofDeclarations_keeps (fun _ ht => ht.add _) ht h

/-- Adds declarations, one after the other. -/
def addAll : List Import → ImportTable → ImportTable
  | [], t => t
  | i :: rest, t => addAll rest (t.add i)

/-- Adding declarations that are all new fills each set with those of its kind, in order. -/
lemma targets_addAll {kind : ImportKind} {imports : List Import} {t : ImportTable}
    (h : (t.targets kind ++ (imports.filter (·.kind == kind)).map (·.target)).Pairwise
      fun m n => m.canonical ≠ n.canonical) :
    (addAll imports t).targets kind = t.targets kind ++ (imports.filter (·.kind == kind)).map (·.target) := by
  induction imports generalizing t with
  | nil => simp [addAll]
  | cons i rest ih =>
      rw [addAll]
      by_cases hkind : i.kind = kind
      · have hfilter : ((i :: rest).filter (·.kind == kind)).map (·.target) =
            i.target :: (rest.filter (·.kind == kind)).map (·.target) := by
          simp [hkind]
        rw [hfilter] at h ⊢
        have hnew : (t.add i).targets kind = t.targets kind ++ [i.target] := by
          rw [targets_add, if_pos hkind.symm]
          refine insertInto_of_new fun m hm => ?_
          exact (List.pairwise_append.mp h).2.2 m hm i.target (List.mem_cons_self ..)
        rw [List.append_cons, ← hnew] at h ⊢
        exact ih h
      · have hfilter : (i :: rest).filter (·.kind == kind) = rest.filter (·.kind == kind) := by
          simp [hkind]
        have hsame : (t.add i).targets kind = t.targets kind := by
          rw [targets_add, if_neg (Ne.symm hkind)]
        rw [hfilter, ← hsame] at h ⊢
        exact ih h

/-! ## A table is read back -/

/-- Declarations that can be read are all read. -/
lemma ofDeclarations_texts {imports : List Import} (t : ImportTable) (h : ∀ i ∈ imports, i.Declarable) :
    ofDeclarations (imports.map Import.text) t = .ok (addAll imports t) := by
  induction imports generalizing t with
  | nil => rfl
  | cons i rest ih =>
      obtain ⟨hi, hrest⟩ := List.forall_mem_cons.mp h
      rw [List.map_cons, ofDeclarations_cons, declare, hi.parse_text]
      exact ih (t.add i) hrest

/-- Adding the declarations of a table to an empty one, in the order in which they are written, gives the same sets. -/
lemma Distinct.perm_addAll (h : t.Distinct) (kind : ImportKind) :
    ((addAll t.declarations {}).targets kind).Perm (t.targets kind) := by
  have hempty : targets {} kind = [] := by cases kind <;> rfl
  have hperm := t.perm_targets kind
  have hnew := (hperm.pairwise_iff Ne.symm).mpr (h kind)
  rw [targets_addAll (by rwa [hempty]), hempty]
  exact hperm

/-- **Declarations survive printing and reading.**  A declaration that was read is read again from its text as it was, in
kind and target with its division.  And for a table that was declared, the lines of its text can all be declared, and
this gives the same four sets. -/
theorem declarations_read_back :
    (∀ {declaration : Text} {i : Import}, Import.parse declaration = .ok i → Import.parse i.text = .ok i) ∧
      ∀ {declarations : List Text} {t : ImportTable}, ofDeclarations declarations {} = .ok t →
        ∃ t', ofDeclarations (Text.lines t.fragment.list) {} = .ok t' ∧
          ∀ kind, (t'.targets kind).Perm (t.targets kind) := by
  constructor
  · intro declaration i h
    exact (Import.declarable_of_parse h).parse_text
  · intro declarations t h
    have hparsed : t.Parsed := Parsed.empty.ofDeclarations h
    have hdistinct : t.Distinct := Distinct.empty.ofDeclarations h
    refine ⟨addAll t.declarations {}, ?_, hdistinct.perm_addAll⟩
    rw [hparsed.lines_list]
    exact ofDeclarations_texts {} fun i => hparsed.declarable_of_mem

/-- A constant that looks like a type, declared with blanks around it, and a table of all four kinds in which two
declarations have the same target. -/
theorem declarations_read_back_mixed :
    let constant : Import := ⟨.singleStatic, ⟨["a", "B", "MAX"], 1, true⟩⟩
    let t : ImportTable :=
      { singleTypes := [⟨["java", "util", "Map"], 2, false⟩, ⟨["a", "B"], 1, false⟩]
        typesOnDemand := [⟨["java", "util", "Map"], 2, false⟩]
        singleStatics := [constant.target]
        staticsOnDemand := [⟨["a", "B"], 1, false⟩] }
    Import.parse "  import static  a.B.MAX ; " = .ok constant ∧ Import.parse constant.text = .ok constant ∧
      ofDeclarations ["java.util.Map", "static a.B.*", "a.B", "import java.util.Map.*;", "static a.B.MAX", "a.B"] {} =
        .ok t ∧
      ∃ t', ofDeclarations (Text.lines t.fragment.list) {} = .ok t' ∧
        ∀ kind, (t'.targets kind).Perm (t.targets kind) := by
  intro constant t
  have hconstant : Import.parse "  import static  a.B.MAX ; " = .ok constant := by rfl
  have ht : ofDeclarations
      ["java.util.Map", "static a.B.*", "a.B", "import java.util.Map.*;", "static a.B.MAX", "a.B"] {} = .ok t := by rfl
  exact ⟨hconstant, declarations_read_back.1 hconstant, ht, declarations_read_back.2 ht⟩

end ImportTable

end JavaSource
