import JavaSource.Unicode.Run

/-!
# Blanks and controls

The Unicode property White_Space and the general category Cc.  Both are closed lists: no version of the
standard has added to them since 6.3.
-/

namespace JavaSource.Unicode

/-- The runs of the property White_Space, in ascending order. -/
def blankRuns : List Run := [
  ⟨0x9, 0xD, 1⟩, ⟨0x20, 0x20, 1⟩, ⟨0x85, 0x85, 1⟩, ⟨0xA0, 0xA0, 1⟩,
  ⟨0x1680, 0x1680, 1⟩, ⟨0x2000, 0x200A, 1⟩, ⟨0x2028, 0x2029, 1⟩, ⟨0x202F, 0x202F, 1⟩,
  ⟨0x205F, 0x205F, 1⟩, ⟨0x3000, 0x3000, 1⟩]

/-- The character is white space. -/
def isBlank (c : Char) : Bool := Run.covers blankRuns c.toNat

/-- The character is a control: U+0000 to U+001F or U+007F to U+009F. -/
def isControl (c : Char) : Bool := c.toNat ≤ 0x1F || (0x7F ≤ c.toNat && c.toNat ≤ 0x9F)

end JavaSource.Unicode
