import JavaSource.Proofs.Template.Grammar

/-!
# Templates one behind the other

Two sources that are put together are read one after the other, provided that the first one ends with a marker.  If
the second one has a fault, it stays the fault, and a marker with an unknown code stays one whatever follows.

**The seam.**  A delimiter might reach across the seam, or occur earlier because of it.  It does not: a text that ends
with a marker is made of segments, and the scanner finds these whatever follows them (`Markers.pieces_sources`).

**Places.**  Reading the second source starts behind the bytes of the first one.  Nothing depends on where reading
starts except the places of markers and faults, and they move with it (`Template.readPieces_behind`).
-/

namespace JavaSource

open Text (byteLength)

/-! ## Places -/

/-- The instruction as it is read behind further bytes. -/
def Instruction.behind (bytes : Nat) : Instruction → Instruction
  | .text t => .text t
  | .marker m => .marker { m with start := bytes + m.start, stop := bytes + m.stop }

/-- The error as it is reported behind further bytes. -/
def ParseError.behind (bytes : Nat) : ParseError → ParseError
  | .unterminated start length ending => .unterminated (bytes + start) length ending
  | .unknownAction start length code => .unknownAction (bytes + start) length code
  | .emptyMarkers => .emptyMarkers

variable {m : Markers}

namespace Template

/-- What is read behind further bytes: the same instructions or the same error, in places further on. -/
def readBehind (bytes : Nat) (read : Except ParseError (List Instruction)) : Except ParseError (List Instruction) :=
  (read.map (List.map (·.behind bytes))).mapError (·.behind bytes)

lemma map_behind_ofLiteral (bytes : Nat) (t : Text) :
    (Instruction.ofLiteral t).map (·.behind bytes) = Instruction.ofLiteral t := by
  cases t <;> rfl

lemma readMarker_behind (bytes start : Nat) (body : Text) : readMarker m (bytes + start) body =
    ((readMarker m start body).map (Option.map (·.behind bytes))).mapError (·.behind bytes) := by
  simp only [readMarker]
  split
  · rfl
  · split
    · rfl
    · simp only [Except.map, Except.mapError, Option.map_some, Instruction.behind, Nat.add_assoc]

/-- **Where reading starts shows in the places only.** -/
lemma readPieces_behind (bytes : Nat) : ∀ (pieces : List Piece) (start : Nat),
    readPieces m (bytes + start) pieces = readBehind bytes (readPieces m start pieces)
  | [], _ => rfl
  | .literal t :: rest, start => by
      rw [readPieces_literal, readPieces_literal, Nat.add_assoc, readPieces_behind bytes rest]
      cases readPieces m (start + byteLength t) rest with
      | error e => rfl
      | ok instructions =>
          simp only [readBehind, Except.map, Except.mapError, List.map_append, map_behind_ofLiteral]
  | .marker body :: rest, start => by
      have hbehind := readMarker_behind (m := m) bytes start body
      cases hread : readMarker m start body with
      | error e =>
          rw [hread] at hbehind
          rw [readPieces, readPieces, hread, hbehind]
          rfl
      | ok instruction =>
          rw [hread] at hbehind
          rw [readPieces_marker hread, readPieces_marker hbehind, Nat.add_assoc, readPieces_behind bytes rest]
          cases readPieces m (start + byteLength (m.enclose body)) rest with
          | error e => rfl
          | ok instructions => cases instruction <;> rfl
  | .unclosed t :: _, start => rfl

end Template

/-! ## The seam -/

/-- The source is empty, or its division leaves nothing behind the last marker. -/
def Markers.EndsInMarker (m : Markers) (source : Text) : Prop :=
  source = [] ∨ ∃ d : Division m, d.source = source ∧ d.segments ≠ [] ∧ d.rest = []

/-- Such a source is made of segments. -/
lemma Markers.EndsInMarker.exists_segments {source : Text} (h : m.EndsInMarker source) :
    ∃ segments : List (Segment m), source = Segment.sources segments := by
  rcases h with rfl | ⟨d, rfl, -, hrest⟩
  · exact ⟨[], rfl⟩
  · exact ⟨d.segments, by rw [Division.source, hrest, List.append_nil]⟩

namespace Template

variable {source : Text} {segments : List (Segment m)} {instructions : List Instruction}

/-- Segments that are read on their own stand for what is read. -/
lemma yield_of_parse_sources (ho : m.opening ≠ []) (he : m.ending ≠ [])
    (h : parse (Segment.sources segments) m = .ok ⟨instructions⟩) : Segment.Yield [] segments instructions := by
  have hplain : ¬ m.opening <:+: [] := fun hin => ho (List.infix_nil.mp hin)
  rcases Markers.exists_outcome ho [] (Segment.sources segments) with ⟨d, leading, hd, hleading⟩ | ⟨e, hfault⟩
  · have hdivision : d = ⟨segments, [], hplain⟩ :=
      Division.source_injective ho (hd.trans (List.append_nil _).symm)
    subst hdivision
    have hread := parse_of_yields ho he (d := ⟨segments, [], hplain⟩) ⟨leading, hleading, rfl⟩
    rw [hd, h] at hread
    cases hread
    simpa [Instruction.ofLiteral] using hleading
  · rw [parse_of_fault ho he hfault] at h
    cases h

/-- **Segments, and then another source.** -/
lemma parse_behind (ho : m.opening ≠ []) (he : m.ending ≠ []) (hyield : Segment.Yield [] segments instructions)
    (source : Text) : parse (Segment.sources segments ++ source) m =
      ((readBehind (byteLength (Segment.sources segments)) (readPieces m 0 (m.pieces ho source))).map
        (instructions ++ ·)).map Template.mk := by
  have hread := readPieces_of_yield hyield (m.pieces ho source)
  rw [Text.byteLength_nil, List.nil_append] at hread
  rw [parse_eq ho he, Markers.pieces_sources, hread, ← readPieces_behind, Nat.add_zero]

/-- **An unknown code stays unknown**, whatever follows its marker. -/
lemma fault_append {start length : Nat} {code : Text} (h : m.Fault [] source (.unknownAction start length code))
    (more : Text) : m.Fault [] (source ++ more) (.unknownAction start length code) := by
  cases h with
  | @unknownAction leading instructions s rest b sound source_eq meaning unknown notComment =>
      have hsource : source ++ more = Segment.sources leading ++ (s.source ++ (rest ++ more)) := by
        rw [source_eq]
        simp only [List.append_assoc]
      exact .unknownAction leading sound hsource meaning unknown notComment

/-- **Templates are put together at the end of a marker.**  Behind a source that is empty or ends with a marker, another
one is read as it is on its own: its instructions come behind those of the first one, or its error is the error, and all
places move by the length of the first source in bytes.  And if the fault of a source is an unknown code, it remains so,
at the same place, whatever is written behind it. -/
theorem parse_concatenates (m : Markers) (hopening : m.opening ≠ []) (hending : m.ending ≠ []) :
    (∀ (a : Text) (t : Template), m.EndsInMarker a → parse a m = .ok t → ∀ b : Text,
      (∀ u, parse b m = .ok u →
        parse (a ++ b) m = .ok ⟨t.instructions ++ u.instructions.map (·.behind (byteLength a))⟩) ∧
      ∀ e, parse b m = .error e → parse (a ++ b) m = .error (e.behind (byteLength a))) ∧
    ∀ (a : Text) (start length : Nat) (code : Text), parse a m = .error (.unknownAction start length code) →
      ∀ b : Text, parse (a ++ b) m = .error (.unknownAction start length code) := by
  constructor
  · intro a t hends ht b
    obtain ⟨segments, rfl⟩ := hends.exists_segments
    have hjoined := parse_behind hopening hending (yield_of_parse_sources hopening hending ht) b
    rw [hjoined, parse_eq hopening hending b]
    cases readPieces m 0 (m.pieces hopening b) with
    | ok instructions =>
        refine ⟨fun u hu => ?_, fun e he => by cases he⟩
        cases hu
        rfl
    | error e =>
        refine ⟨fun u hu => by (cases hu), fun e' he => ?_⟩
        cases he
        rfl
  · intro a start length code ha b
    rcases Markers.exists_outcome hopening [] a with ⟨d, leading, rfl, hleading⟩ | ⟨e, hfault⟩
    · rw [parse_of_yields hopening hending ⟨leading, hleading, rfl⟩] at ha
      cases ha
    · rw [parse_of_fault hopening hending hfault] at ha
      cases ha
      exact parse_of_fault hopening hending (fault_append hfault b)

/-- The ending delimiter begins the opening one, so at the seam two delimiters seem to stand where there is one: a
source that is read, one that is not, and an unknown code in the first source. -/
theorem parse_concatenates_overlapping :
    let m : Markers := ⟨"%%", "%"⟩
    let first : Template := ⟨[.text "é", .marker ⟨.name, "%%N:0%", some (.index 0), 2, 8⟩]⟩
    m.opening ≠ [] ∧ m.ending ≠ [] ∧ m.EndsInMarker "é%%N:0%" ∧ parse "é%%N:0%" m = .ok first ∧
      parse "%é%%S%" m = .ok ⟨[.text "%é", .marker ⟨.literal, "%%S%", none, 3, 7⟩]⟩ ∧
      parse ("é%%N:0%" ++ "%é%%S%") m =
        .ok ⟨first.instructions ++ [.text "%é", .marker ⟨.literal, "%%S%", none, 11, 15⟩]⟩ ∧
      parse "%%T%%%x" m = .error (.unterminated 4 3 "%") ∧
      parse ("é%%N:0%" ++ "%%T%%%x") m = .error (.unterminated 12 3 "%") ∧
      parse "%% x //%" m = .error (.unknownAction 0 8 "x") ∧
      parse ("%% x //%" ++ "%") m = .error (.unknownAction 0 8 "x") := by
  intro m first
  have hopening : m.opening ≠ [] := by decide
  have hending : m.ending ≠ [] := by decide
  have hcutOpening : Text.cut? m.opening "é%%N:0%" = some (("é" : Text), ("N:0%" : Text)) := by decide +kernel
  have hcutEnding : Text.cut? m.ending "N:0%" = some (("N:0" : Text), []) := by decide +kernel
  have hends : m.EndsInMarker "é%%N:0%" :=
    Or.inr ⟨⟨[.ofCuts hcutOpening hcutEnding], [], by decide⟩, rfl, by simp, rfl⟩
  have hfirst : parse "é%%N:0%" m = .ok first := by decide +kernel
  have hsecond : parse "%é%%S%" m = .ok ⟨[.text "%é", .marker ⟨.literal, "%%S%", none, 3, 7⟩]⟩ := by decide +kernel
  have hopen : parse "%%T%%%x" m = .error (.unterminated 4 3 "%") := by decide +kernel
  have hunknown : parse "%% x //%" m = .error (.unknownAction 0 8 "x") := by decide +kernel
  obtain ⟨hseam, hkeeps⟩ := parse_concatenates m hopening hending
  exact ⟨hopening, hending, hends, hfirst, hsecond, (hseam _ first hends hfirst _).1 _ hsecond, hopen,
    (hseam _ first hends hfirst _).2 _ hopen, hunknown, hkeeps _ 0 8 "x" hunknown _⟩

end Template

end JavaSource
