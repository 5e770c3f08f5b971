import JavaSource.Unicode.Blank

/-!
# Text

Everything this library reads and writes is **text**: a finite sequence of characters.  It is kept as a list,
so that scanning is structural recursion and every law is a law of lists; `String` appears only where a
program's input or output is met.  A string literal may stand wherever a text is expected.

Beside the list functions of the standard library, four operations are needed again and again: cutting blanks
off both ends (`trim`), removing a known beginning or ending (`after?`, `before?`), and splitting at the first
occurrence of a pattern (`cut?`).
-/

namespace JavaSource

/-- A sequence of characters. -/
abbrev Text := List Char

instance : Coe String Text := ⟨String.toList⟩

namespace Text

/-- The number of bytes that the text takes in UTF-8.  Positions in a source text are counted this way. -/
def byteLength : Text → Nat
  | [] => 0
  | c :: cs => c.utf8Size + byteLength cs

/-- The texts, with `separator` between each two neighbours. -/
def join (separator : Text) (parts : List Text) : Text := List.intercalate separator parts

/-- Cuts blanks off the end. -/
def trimEnd (t : Text) : Text := (t.reverse.dropWhile Unicode.isBlank).reverse

/-- Cuts blanks off both ends. -/
def trim (t : Text) : Text := trimEnd (t.dropWhile Unicode.isBlank)

/-- What follows `start` in a text that begins with it. -/
def after? : (start : Text) → Text → Option Text
  | [], t => some t
  | _ :: _, [] => none
  | p :: ps, c :: cs => if p = c then after? ps cs else none

/-- What precedes `ending` in a text that ends with it. -/
def before? (ending t : Text) : Option Text := (after? ending.reverse t.reverse).map List.reverse

/-- Splits a text at the first occurrence of `pattern`: what stands before it and what follows it. -/
def cut? (pattern : Text) : Text → Option (Text × Text)
  | [] => (after? pattern []).map (([], ·))
  | c :: cs =>
    match after? pattern (c :: cs) with
    | some rest => some ([], rest)
    | none => (cut? pattern cs).map fun (before, rest) => (c :: before, rest)

/-- The text without what `strip` removes, or the whole text where it removes nothing. -/
def orSelf (strip : Text → Option Text) (t : Text) : Text := (strip t).getD t

/-- Lexicographic comparison by code points, which is also the order of the UTF-8 encodings. -/
def compare : Text → Text → Ordering
  | [], [] => .eq
  | [], _ :: _ => .lt
  | _ :: _, [] => .gt
  | c :: cs, d :: ds =>
    if c.toNat < d.toNat then .lt else if d.toNat < c.toNat then .gt else compare cs ds

/-- The text does not come after the other one in lexicographic order. -/
def le (s t : Text) : Bool := compare s t != .gt

/-! ## Nothing is lost

What is removed from a text, and what is left of it, make up the text again.  In particular the rest is shorter,
which is what ends a scan that goes on with the rest. -/

theorem eq_of_after? : ∀ {start t rest : Text}, after? start t = some rest → t = start ++ rest
  | [], _, _, h => by
    rw [after?, Option.some.injEq] at h
    exact h
  | _ :: _, [], _, h => by simp [after?] at h
  | p :: ps, c :: cs, rest, h => by
    rw [after?] at h
    split at h
    · rename_i hpc
      rw [hpc, eq_of_after? h, List.cons_append]
    · cases h

theorem eq_of_cut? {pattern : Text} : ∀ {t before rest : Text},
    cut? pattern t = some (before, rest) → t = before ++ pattern ++ rest
  | [], before, rest, h => by
    simp only [cut?, Option.map_eq_some_iff, Prod.mk.injEq] at h
    obtain ⟨r, hr, rfl, rfl⟩ := h
    exact eq_of_after? hr
  | c :: cs, before, rest, h => by
    rw [cut?] at h
    split at h
    · rename_i r hr
      simp only [Option.some.injEq, Prod.mk.injEq] at h
      obtain ⟨rfl, rfl⟩ := h
      exact eq_of_after? hr
    · simp only [Option.map_eq_some_iff, Prod.mk.injEq] at h
      obtain ⟨⟨b, r⟩, hr, rfl, rfl⟩ := h
      rw [eq_of_cut? hr]
      simp

theorem length_of_cut? {pattern t before rest : Text} (h : cut? pattern t = some (before, rest)) :
    t.length = before.length + pattern.length + rest.length := by
  rw [eq_of_cut? h, List.length_append, List.length_append]

end Text

end JavaSource
