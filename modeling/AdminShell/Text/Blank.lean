/-! # White space

The characters of the Unicode `White_Space` property, and trimming by them. Key types are
read after such a trim, so a key type written with a no-break space around it still reads.
-/

namespace AdminShell.Text

/-- The Unicode `White_Space` property: the ASCII blanks and controls 9 to 13, the next line
control, the no-break spaces, the Ogham space mark, the typographic spaces from U+2000 to
U+200A, the line and paragraph separators, the medium mathematical space and the ideographic
space. -/
def isWhiteSpace (c : Char) : Bool :=
  let n := c.toNat
  (9 ≤ n && n ≤ 13) || n == 0x20 || n == 0x85 || n == 0xA0 || n == 0x1680 ||
    (0x2000 ≤ n && n ≤ 0x200A) || n == 0x2028 || n == 0x2029 || n == 0x202F ||
    n == 0x205F || n == 0x3000

def trimWhiteSpace (s : String) : String :=
  String.ofList (((s.toList.dropWhile isWhiteSpace).reverse.dropWhile isWhiteSpace).reverse)

theorem isWhiteSpace_of_isWhitespace {c : Char} (h : c.isWhitespace = true) :
    isWhiteSpace c = true := by
  simp only [Char.isWhitespace, Bool.or_eq_true, decide_eq_true_eq] at h
  rcases h with ((rfl | rfl) | rfl) | rfl <;> rfl

end AdminShell.Text
