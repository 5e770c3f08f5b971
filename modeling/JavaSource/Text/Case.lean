import JavaSource.Text.Basic
import JavaSource.Unicode.CaseMapping
import JavaSource.Unicode.Cased

/-!
# Capital and small letters of a text

Case mapping goes character by character, with one exception: a capital sigma at the end of a word has a
small form of its own.
-/

namespace JavaSource.Text

/-- The text in capital letters. -/
def toUpper (t : Text) : Text := t.flatMap Unicode.upper

/-- Past its ignorable characters, the text goes on with a cased letter. -/
def meetsCased (t : Text) : Bool :=
  match t.dropWhile Unicode.isCaseIgnorable with
  | [] => false
  | c :: _ => Unicode.isCased c

/-- The capital sigma. -/
def sigma : Char := Char.ofNat 0x3A3

/-- The small sigma, in the middle or at the end of a word. -/
def smallSigma (final : Bool) : Char := Char.ofNat (if final then 0x3C2 else 0x3C3)

/-- Small letters of `t`, where `seen` is the text before it, last character first. -/
def lowerAfter (seen : Text) : Text → Text
  | [] => []
  | c :: rest =>
    let image :=
      if c = sigma then [smallSigma (meetsCased seen && !meetsCased rest)] else Unicode.lower c
    image ++ lowerAfter (c :: seen) rest

/-- The text in small letters; a capital sigma becomes final exactly at the end of a word. -/
def toLower (t : Text) : Text := lowerAfter [] t

/-- The text with its first character in capital form. -/
def capitalized : Text → Text
  | [] => []
  | c :: rest => Unicode.upper c ++ rest

end JavaSource.Text
