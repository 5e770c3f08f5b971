import JavaSource.Template.Basic
import JavaSource.Proofs.Text.Occurrence

/-!
# The grammar of templates

`Template.parse` is a scanner.  This file gives the grammar that it accepts, in terms of first occurrences alone, and
shows that the two agree on every source and for all delimiters.

**Divisions.**  A source is taken apart into segments, each a literal text and the marker behind it, and a rest without
markers.  Delimiters may overlap or be equal, so where a marker begins and ends is a matter of first occurrences; a
`Segment` carries the proof that its delimiters are the first ones there are.  A source has at most one division
(`Division.source_injective`).

**Meaning.**  The body of a marker has a code, perhaps a selector and perhaps a comment.  A marker `StandsFor` one
instruction, or for none if it is there for its comment only; a division `Yields` the instructions of its parts, with
the places of the markers in bytes.

**Faults.**  If there is no division that yields something, something is wrong with a marker, and the leftmost one is
reported: its code is unknown, or it is never closed.

The scanner finds the segments one after the other (`Markers.pieces_sources`), and every source has an outcome of one
of the two sorts (`Markers.exists_outcome`); hence it reads exactly what the grammar admits.
-/

namespace JavaSource

open Text (FirstAt Cuts byteLength)

/-! ## Bodies of markers -/

namespace MarkerBody

variable {body : Text} {b : MarkerBody}

/-- What the body of a marker means: a comment begins at the first two slashes, and what precedes it is divided into
code and selector at the first colon. -/
inductive Meaning (body : Text) : MarkerBody → Prop
  | intro {written code : Text} {comment? selector? : Option Text} (comment : Cuts "//" body written comment?)
      (colon : Cuts ":" written code selector?) :
      Meaning body ⟨Text.trim code, selector?.bind Selector.parse?, comment?.isSome⟩

lemma exists_meaning (body : Text) : ∃ b, Meaning body b := by
  obtain ⟨written, comment?, hcomment⟩ := Text.exists_cuts "//" body
  obtain ⟨code, selector?, hcolon⟩ := Text.exists_cuts ":" written
  exact ⟨_, .intro hcomment hcolon⟩

lemma readCode_eq {written code : Text} {selector? : Option Text} (h : Cuts ":" written code selector?) :
    readCode written = (Text.trim code, selector?.bind Selector.parse?) := by
  cases selector? with
  | none =>
      obtain ⟨hcut, rfl⟩ := Text.cuts_none_iff.mp h
      rw [readCode, hcut]
      rfl
  | some selector =>
      rw [readCode, Text.cuts_some_iff.mp h]
      rfl

/-- **Reading a body** finds out what it means. -/
lemma Meaning.read_eq (h : Meaning body b) : read body = b := by
  obtain @⟨written, code, comment?, selector?, hcomment, hcolon⟩ := h
  have hcode := readCode_eq hcolon
  cases comment? with
  | none =>
      obtain ⟨hcut, rfl⟩ := Text.cuts_none_iff.mp hcomment
      simp only [read, hcut, hcode, Option.isSome_none]
  | some comment => simp only [read, Text.cuts_some_iff.mp hcomment, hcode, Option.isSome_some]

lemma isComment_iff : b.isComment = true ↔ b.code = [] ∧ b.hasComment = true := by
  simp [isComment]

end MarkerBody

/-! ## Divisions -/

/-- A literal text and the marker behind it: the opening delimiter is the first one from the beginning of the text, and
the ending delimiter is the first one from the beginning of the body. -/
@[ext] structure Segment (m : Markers) where
  literal : Text
  body : Text
  opening_first : FirstAt m.opening (literal ++ m.enclose body) literal.length
  ending_first : FirstAt m.ending (body ++ m.ending) body.length

/-- A source text taken apart into segments and a rest without markers. -/
@[ext] structure Division (m : Markers) where
  segments : List (Segment m)
  rest : Text
  rest_plain : ¬ m.opening <:+: rest

variable {m : Markers}

/-- The text of a segment. -/
def Segment.source (s : Segment m) : Text := s.literal ++ m.enclose s.body

/-- The text of segments one after the other. -/
def Segment.sources (segments : List (Segment m)) : Text := segments.flatMap Segment.source

/-- The text that was taken apart. -/
def Division.source (d : Division m) : Text := Segment.sources d.segments ++ d.rest

/-! ## What the parts stand for -/

/-- The instruction for a literal text; an empty one needs none. -/
def Instruction.ofLiteral (t : Text) : List Instruction := if t.isEmpty then [] else [.text t]

/-- What the marker with the given body stands for, behind the text `before`.  A marker that has a comment and no code
is passed over. -/
inductive Markers.StandsFor (m : Markers) (before body : Text) : List Instruction → Prop
  | comment {b : MarkerBody} (meaning : b.Meaning body) (code : b.code = []) (comment : b.hasComment = true) :
      StandsFor m before body []
  | action {b : MarkerBody} {a : Action} (meaning : b.Meaning body) (code : Action.ofCode? b.code = some a) :
      StandsFor m before body
        [.marker ⟨a, m.enclose body, b.selector, byteLength before, byteLength (before ++ m.enclose body)⟩]

/-- What segments stand for, one after the other, behind the text `before`. -/
inductive Segment.Yield : (before : Text) → List (Segment m) → List Instruction → Prop
  | nil {before : Text} : Yield before [] []
  | cons {before : Text} {s : Segment m} {rest : List (Segment m)} {marker instructions : List Instruction}
      (head : m.StandsFor (before ++ s.literal) s.body marker) (tail : Yield (before ++ s.source) rest instructions) :
      Yield before (s :: rest) (Instruction.ofLiteral s.literal ++ marker ++ instructions)

/-- The division consists of these instructions. -/
def Division.Yields (d : Division m) (instructions : List Instruction) : Prop :=
  ∃ leading, Segment.Yield [] d.segments leading ∧ instructions = leading ++ Instruction.ofLiteral d.rest

/-- What is wrong with the source behind the text `before`: it is the first marker that does not stand for anything,
behind segments that do. -/
inductive Markers.Fault (m : Markers) (before source : Text) : ParseError → Prop
  /-- The code of the marker is unknown, and there is not only a comment. -/
  | unknownAction (leading : List (Segment m)) {instructions : List Instruction} {s : Segment m} {rest : Text}
      {b : MarkerBody} (sound : Segment.Yield before leading instructions)
      (source_eq : source = Segment.sources leading ++ (s.source ++ rest)) (meaning : b.Meaning s.body)
      (unknown : Action.ofCode? b.code = none) (notComment : ¬ (b.code = [] ∧ b.hasComment = true)) :
      Fault m before source (.unknownAction (byteLength (before ++ Segment.sources leading ++ s.literal))
        (byteLength (m.enclose s.body)) b.code)
  /-- The marker is never closed. -/
  | unterminated (leading : List (Segment m)) {instructions : List Instruction} {literal rest : Text}
      (sound : Segment.Yield before leading instructions)
      (source_eq : source = Segment.sources leading ++ (literal ++ m.opening ++ rest))
      (first : FirstAt m.opening (literal ++ m.opening) literal.length) (unclosed : ¬ m.ending <:+: rest) :
      Fault m before source (.unterminated (byteLength (before ++ Segment.sources leading ++ literal))
        (byteLength (m.opening ++ rest)) m.ending)

/-! ## The scanner finds the segments -/

namespace Segment

/-- The pieces that the scanner makes of a segment. -/
def pieces (s : Segment m) : List Piece := [.literal s.literal, .marker s.body]

lemma source_eq (s : Segment m) : s.source = s.literal ++ m.opening ++ (s.body ++ m.ending) := by
  simp [source, Markers.enclose]

lemma sources_cons (s : Segment m) (rest : List (Segment m)) : sources (s :: rest) = s.source ++ sources rest := by
  simp [sources]

/-- Two cuts, one for each delimiter, make a segment. -/
def ofCuts {t body rest rest' source : Text} (hopen : Text.cut? m.opening source = some (t, rest))
    (hclose : Text.cut? m.ending rest = some (body, rest')) : Segment m where
  literal := t
  body := body
  opening_first := by
    have hfirst := (Text.cut?_eq_some_iff.mp hopen).2
    rw [← Text.firstAt_append_iff (body ++ m.ending)] at hfirst
    simpa [Markers.enclose] using hfirst
  ending_first := (Text.cut?_eq_some_iff.mp hclose).2

lemma cut?_opening (s : Segment m) (t : Text) :
    Text.cut? m.opening (s.source ++ t) = some (s.literal, s.body ++ m.ending ++ t) := by
  have hfirst := s.opening_first
  simp only [Markers.enclose, ← List.append_assoc] at hfirst
  rw [List.append_assoc _ s.body, Text.firstAt_append_iff] at hfirst
  rw [source_eq, List.append_assoc _ _ t]
  exact Text.cut?_append _ hfirst

lemma cut?_ending (s : Segment m) (t : Text) : Text.cut? m.ending (s.body ++ m.ending ++ t) = some (s.body, t) :=
  Text.cut?_append t s.ending_first

end Segment

namespace Markers

variable {t rest : Text}

lemma pieces_eq (h : m.opening ≠ []) (source : Text) : m.pieces h source =
    match Text.cut? m.opening source with
    | none => [.literal source]
    | some (before, rest) =>
      match Text.cut? m.ending rest with
      | none => [.literal before, .unclosed rest]
      | some (body, rest') => .literal before :: .marker body :: m.pieces h rest' := by
  rw [pieces]
  split
  · rename_i hopen
    simp only [hopen]
  · rename_i hopen
    simp only [hopen]
    split
    · rename_i hclose
      simp only [hclose]
    · rename_i hclose
      simp only [hclose]

lemma pieces_plain (h : m.opening ≠ []) (ht : ¬ m.opening <:+: t) : m.pieces h t = [.literal t] := by
  rw [pieces_eq, Text.cut?_eq_none_iff.mpr ht]

lemma pieces_unclosed (h : m.opening ≠ []) (hfirst : FirstAt m.opening (t ++ m.opening) t.length)
    (hrest : ¬ m.ending <:+: rest) : m.pieces h (t ++ m.opening ++ rest) = [.literal t, .unclosed rest] := by
  simp only [pieces_eq h, Text.cut?_append rest hfirst, Text.cut?_eq_none_iff.mpr hrest]

lemma pieces_source (h : m.opening ≠ []) (s : Segment m) (t : Text) :
    m.pieces h (s.source ++ t) = s.pieces ++ m.pieces h t := by
  rw [pieces_eq]
  simp only [s.cut?_opening, s.cut?_ending, Segment.pieces, List.cons_append, List.nil_append]

/-- **The scanner finds the segments**, one after the other. -/
lemma pieces_sources (h : m.opening ≠ []) (t : Text) : ∀ segments : List (Segment m),
    m.pieces h (Segment.sources segments ++ t) = segments.flatMap Segment.pieces ++ m.pieces h t
  | [] => rfl
  | s :: rest => by
      rw [Segment.sources_cons, List.append_assoc, pieces_source, pieces_sources h t rest, List.flatMap_cons,
        List.append_assoc]

end Markers

/-- The scanner's pieces determine a division. -/
lemma Division.pieces_injective : ∀ {segments segments' : List (Segment m)} {rest rest' : Text},
    segments.flatMap Segment.pieces ++ [.literal rest] = segments'.flatMap Segment.pieces ++ [.literal rest'] →
      segments = segments' ∧ rest = rest'
  | [], [], _, _, h => by simpa using h
  | [], s :: segments', _, _, h => by simp [Segment.pieces] at h
  | s :: segments, [], _, _, h => by simp [Segment.pieces] at h
  | s :: segments, s' :: segments', rest, rest', h => by
      simp only [List.flatMap_cons, Segment.pieces, List.cons_append, List.nil_append, List.cons.injEq,
        Piece.literal.injEq, Piece.marker.injEq] at h
      obtain ⟨hliteral, hbody, htail⟩ := h
      obtain ⟨rfl, rfl⟩ := pieces_injective htail
      exact ⟨congrArg (· :: segments) (Segment.ext hliteral hbody), rfl⟩

/-- **A source has at most one division.** -/
lemma Division.source_injective (h : m.opening ≠ []) {d d' : Division m} (hsource : d.source = d'.source) : d = d' := by
  have hpieces := congrArg (m.pieces h) hsource
  rw [source, source, Markers.pieces_sources, Markers.pieces_sources, Markers.pieces_plain h d.rest_plain,
    Markers.pieces_plain h d'.rest_plain] at hpieces
  obtain ⟨hsegments, hrest⟩ := pieces_injective hpieces
  exact Division.ext hsegments hrest

/-! ## Reading the pieces -/

namespace Template

variable {before body source : Text} {segments : List (Segment m)} {instructions : List Instruction}

lemma readPieces_literal (start : Nat) (t : Text) (rest : List Piece) :
    readPieces m start (.literal t :: rest) =
      (readPieces m (start + byteLength t) rest).map (Instruction.ofLiteral t ++ ·) := by
  rw [readPieces]
  cases readPieces m (start + byteLength t) rest with
  | error e => rfl
  | ok instructions => cases t <;> rfl

lemma readPieces_marker {start : Nat} {instruction : Option Instruction}
    (h : readMarker m start body = .ok instruction) (rest : List Piece) :
    readPieces m start (.marker body :: rest) =
      (readPieces m (start + byteLength (m.enclose body)) rest).map (instruction.toList ++ ·) := by
  rw [readPieces, h]
  cases readPieces m (start + byteLength (m.enclose body)) rest with
  | error e => rfl
  | ok instructions => rfl

/-- No action has an empty code, so a marker without a code is a comment or a fault. -/
lemma ofCode?_nil : Action.ofCode? [] = none := by decide

/-- **A marker is read as what it stands for.** -/
lemma readMarker_of_standsFor (h : m.StandsFor before body instructions) :
    ∃ instruction, readMarker m (byteLength before) body = .ok instruction ∧ instruction.toList = instructions := by
  cases h with
  | comment meaning code comment =>
      refine ⟨none, ?_, rfl⟩
      simp only [readMarker, meaning.read_eq, MarkerBody.isComment_iff.mpr ⟨code, comment⟩, if_true]
  | @action b a meaning code =>
      have hcomment : ¬ b.isComment = true := by
        rw [MarkerBody.isComment_iff]
        rintro ⟨hnil, -⟩
        rw [hnil, ofCode?_nil] at code
        cases code
      refine ⟨some (.marker ⟨a, m.enclose body, b.selector, byteLength before, byteLength (before ++ m.enclose body)⟩),
        ?_, rfl⟩
      simp only [readMarker, meaning.read_eq, if_neg hcomment, code, Text.byteLength_append]

/-- **Segments are read as what they stand for**, whatever follows them. -/
lemma readPieces_of_yield (h : Segment.Yield before segments instructions) (rest : List Piece) :
    readPieces m (byteLength before) (segments.flatMap Segment.pieces ++ rest) =
      (readPieces m (byteLength (before ++ Segment.sources segments)) rest).map (instructions ++ ·) := by
  induction h with
  | @nil before =>
      have hsources : before ++ Segment.sources ([] : List (Segment m)) = before := List.append_nil before
      rw [hsources, List.flatMap_nil, List.nil_append]
      cases readPieces m (byteLength before) rest <;> rfl
  | @cons before s segments marker instructions head tail ih =>
      obtain ⟨instruction, hread, htoList⟩ := readMarker_of_standsFor head
      rw [Text.byteLength_append] at hread
      have hplace : byteLength before + byteLength s.literal + byteLength (m.enclose s.body) =
          byteLength (before ++ s.source) := by
        simp only [Segment.source, Text.byteLength_append, Nat.add_assoc]
      rw [List.flatMap_cons, Segment.pieces, List.append_assoc, List.cons_append, List.cons_append, List.nil_append,
        readPieces_literal, readPieces_marker hread, hplace, ih, Segment.sources_cons, ← List.append_assoc before,
        htoList]
      cases readPieces m (byteLength (before ++ s.source ++ Segment.sources segments)) rest with
      | error e => rfl
      | ok further => simp [Except.map]

/-! ## Parsing -/

/-- A division that yields instructions is read as these. -/
lemma readPieces_of_yields (h : m.opening ≠ []) {d : Division m} (hd : d.Yields instructions) :
    readPieces m 0 (m.pieces h d.source) = .ok instructions := by
  obtain ⟨leading, hleading, rfl⟩ := hd
  have hread := readPieces_of_yield hleading [.literal d.rest]
  rw [Text.byteLength_nil] at hread
  rw [Division.source, Markers.pieces_sources, Markers.pieces_plain h d.rest_plain, hread, readPieces_literal,
    readPieces]
  simp [Except.map]

lemma readMarker_of_unknown (m : Markers) {b : MarkerBody} (hb : b.Meaning body) (hcode : Action.ofCode? b.code = none)
    (hcomment : ¬ (b.code = [] ∧ b.hasComment = true)) (start : Nat) :
    readMarker m start body = .error (.unknownAction start (byteLength (m.enclose body)) b.code) := by
  have hcomment' : ¬ b.isComment = true := fun h => hcomment (MarkerBody.isComment_iff.mp h)
  simp only [readMarker, hb.read_eq, if_neg hcomment', hcode]

/-- A fault is what reading ends with. -/
lemma readPieces_of_fault (h : m.opening ≠ []) {e : ParseError} (hfault : m.Fault before source e) :
    readPieces m (byteLength before) (m.pieces h source) = .error e := by
  cases hfault with
  | @unknownAction leading instructions s rest b sound source_eq meaning unknown notComment =>
      have hread := readMarker_of_unknown m meaning unknown notComment
      rw [source_eq, Markers.pieces_sources, readPieces_of_yield sound, Markers.pieces_source, Segment.pieces,
        List.cons_append, List.cons_append, readPieces_literal, readPieces, hread, ← Text.byteLength_append]
      rfl
  | @unterminated leading instructions literal rest sound source_eq first unclosed =>
      rw [source_eq, Markers.pieces_sources, readPieces_of_yield sound, Markers.pieces_unclosed h first unclosed,
        readPieces_literal, readPieces, ← Text.byteLength_append]
      rfl

end Template

namespace Markers

variable {before rest : Text} {instructions : List Instruction} {e : ParseError}

/-- A marker stands for something, or its code is unknown. -/
lemma standsFor_or_unknown (m : Markers) (before body : Text) :
    (∃ instructions, m.StandsFor before body instructions) ∨
      ∃ b, MarkerBody.Meaning body b ∧ Action.ofCode? b.code = none ∧ ¬ (b.code = [] ∧ b.hasComment = true) := by
  obtain ⟨b, hb⟩ := MarkerBody.exists_meaning body
  cases hcode : Action.ofCode? b.code with
  | some a => exact Or.inl ⟨_, .action hb hcode⟩
  | none =>
      by_cases hcomment : b.code = [] ∧ b.hasComment = true
      · exact Or.inl ⟨_, .comment hb hcomment.1 hcomment.2⟩
      · exact Or.inr ⟨b, hb, hcode, hcomment⟩

/-- A fault stays the leftmost one behind a segment that stands for something. -/
lemma Fault.behind {s : Segment m} (hs : m.StandsFor (before ++ s.literal) s.body instructions)
    (hfault : m.Fault (before ++ s.source) rest e) : m.Fault before (s.source ++ rest) e := by
  have hplace : ∀ (leading : List (Segment m)) (t : Text), before ++ s.source ++ Segment.sources leading ++ t =
      before ++ Segment.sources (s :: leading) ++ t := by
    intro leading t
    simp only [Segment.sources_cons, List.append_assoc]
  have hsource : ∀ (leading : List (Segment m)) (t : Text), rest = Segment.sources leading ++ t →
      s.source ++ rest = Segment.sources (s :: leading) ++ t := by
    rintro leading t rfl
    rw [Segment.sources_cons, List.append_assoc]
  cases hfault with
  | unknownAction leading sound source_eq meaning unknown notComment =>
      rw [hplace]
      exact .unknownAction _ (sound.cons hs) (hsource leading _ source_eq) meaning unknown notComment
  | unterminated leading sound source_eq first unclosed =>
      rw [hplace]
      exact .unterminated _ (sound.cons hs) (hsource leading _ source_eq) first unclosed

/-- **Every source has an outcome**: a division that yields instructions, or a fault. -/
lemma exists_outcome (h : m.opening ≠ []) (before source : Text) :
    (∃ (d : Division m) (leading : List Instruction), d.source = source ∧ Segment.Yield before d.segments leading) ∨
      ∃ e, m.Fault before source e := by
  -- the scan goes on behind the first marker, with a shorter source
  induction hlength : source.length using Nat.strongRecOn generalizing before source with
  | ind n ih =>
      subst hlength
      cases hopen : Text.cut? m.opening source with
      | none => exact Or.inl ⟨⟨[], source, Text.cut?_eq_none_iff.mp hopen⟩, [], rfl, .nil⟩
      | some cut =>
          obtain ⟨literal, rest⟩ := cut
          obtain ⟨hsource, hfirst⟩ := Text.cut?_eq_some_iff.mp hopen
          cases hclose : Text.cut? m.ending rest with
          | none => exact Or.inr ⟨_, .unterminated [] .nil hsource hfirst (Text.cut?_eq_none_iff.mp hclose)⟩
          | some cut =>
              obtain ⟨body, rest'⟩ := cut
              have hrest := (Text.cut?_eq_some_iff.mp hclose).1
              let s : Segment m := .ofCuts hopen hclose
              have hs : source = s.source ++ rest' := by
                rw [hsource, hrest, Segment.source_eq]
                simp [s, Segment.ofCuts]
              rcases m.standsFor_or_unknown (before ++ s.literal) s.body with
                ⟨marker, hmarker⟩ | ⟨b, hb, hcode, hcomment⟩
              · have hshorter : rest'.length < source.length := by
                  have h₁ := Text.length_of_cut? hopen
                  have h₂ := Text.length_of_cut? hclose
                  have h₃ := List.length_pos_iff.mpr h
                  omega
                rcases ih rest'.length hshorter (before ++ s.source) rest' rfl with ⟨d, leading, hd, hleading⟩ | ⟨e, he⟩
                · refine Or.inl ⟨⟨s :: d.segments, d.rest, d.rest_plain⟩, _, ?_, hleading.cons hmarker⟩
                  rw [hs, ← hd, Division.source, Division.source, Segment.sources_cons, List.append_assoc]
                · exact Or.inr ⟨e, hs ▸ he.behind hmarker⟩
              · exact Or.inr ⟨_, .unknownAction [] .nil hs hb hcode hcomment⟩

end Markers

namespace Template

variable {source : Text}

lemma parse_eq (ho : m.opening ≠ []) (he : m.ending ≠ []) (source : Text) :
    parse source m = (readPieces m 0 (m.pieces ho source)).map Template.mk := by
  rw [parse, dif_neg ho, if_neg he]

lemma parse_of_yields (ho : m.opening ≠ []) (he : m.ending ≠ []) {d : Division m} {instructions : List Instruction}
    (hd : d.Yields instructions) : parse d.source m = .ok ⟨instructions⟩ := by
  rw [parse_eq ho he, readPieces_of_yields ho hd]
  rfl

lemma parse_of_fault (ho : m.opening ≠ []) (he : m.ending ≠ []) {e : ParseError} (hfault : m.Fault [] source e) :
    parse source m = .error e := by
  have hread := readPieces_of_fault ho hfault
  rw [Text.byteLength_nil] at hread
  rw [parse_eq ho he, hread]
  rfl

/-- **A template is read exactly as its grammar says.**  It is accepted with some instructions if and only if its source
has a division that yields them; a source has at most one division; and it is refused with an error if and only if this
is the fault of its leftmost marker that does not stand for anything. -/
theorem parse_iff_grammar (m : Markers) (hopening : m.opening ≠ []) (hending : m.ending ≠ []) (source : Text) :
    (∀ instructions, parse source m = .ok ⟨instructions⟩ ↔
      ∃ d : Division m, d.source = source ∧ d.Yields instructions) ∧
    (∀ d d' : Division m, d.source = source → d'.source = source → d = d') ∧
    ∀ e, parse source m = .error e ↔ m.Fault [] source e := by
  refine ⟨fun instructions => ⟨fun h => ?_, ?_⟩,
    fun d d' hd hd' => Division.source_injective hopening (hd.trans hd'.symm), fun e => ⟨fun h => ?_, ?_⟩⟩
  · rcases Markers.exists_outcome hopening [] source with ⟨d, leading, rfl, hleading⟩ | ⟨e, he⟩
    · have hyields : d.Yields (leading ++ Instruction.ofLiteral d.rest) := ⟨leading, hleading, rfl⟩
      rw [parse_of_yields hopening hending hyields] at h
      cases h
      exact ⟨d, rfl, hyields⟩
    · rw [parse_of_fault hopening hending he] at h
      cases h
  · rintro ⟨d, rfl, hyields⟩
    exact parse_of_yields hopening hending hyields
  · rcases Markers.exists_outcome hopening [] source with ⟨d, leading, rfl, hleading⟩ | ⟨e', he'⟩
    · rw [parse_of_yields hopening hending ⟨leading, hleading, rfl⟩] at h
      cases h
    · rw [parse_of_fault hopening hending he'] at h
      cases h
      exact he'
  · exact parse_of_fault hopening hending

/-- Delimiters of which one begins the other: the source of a name and a comment, one with an unknown code behind a
known one, and one that is not closed.  Places are in bytes. -/
theorem overlapping_delimiters_grammar :
    let m : Markers := ⟨"%%", "%"⟩
    m.opening ≠ [] ∧ m.ending ≠ [] ∧
      (∃ d : Division m, d.source = "é%%N:0%%% // hint%!" ∧
        d.Yields [.text "é", .marker ⟨.name, "%%N:0%", some (.index 0), 2, 8⟩, .text "!"]) ∧
      m.Fault [] "é%%N%%% x:y//z%%%?" (.unknownAction 6 10 "x") ∧
      m.Fault [] "é%%N%%%?" (.unterminated 6 3 "%") := by
  intro m
  have hopening : m.opening ≠ [] := by decide
  have hending : m.ending ≠ [] := by decide
  refine ⟨hopening, hending, ?_, ?_, ?_⟩
  · exact ((parse_iff_grammar m hopening hending _).1 _).mp (by decide +kernel)
  · exact ((parse_iff_grammar m hopening hending _).2.2 _).mp (by decide +kernel)
  · exact ((parse_iff_grammar m hopening hending _).2.2 _).mp (by decide +kernel)

end Template

end JavaSource
