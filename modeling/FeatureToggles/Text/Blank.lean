/-!
# White space

The characters that separate tokens and that trimming removes.  The set is wider than the ASCII one:
it has the information separators `U+001C` to `U+001F`, the next-line control, and every Unicode
space and separator.

Main statement: every character of core's own class is in the set (`isBlank_of_isWhitespace`).
-/

namespace FeatureToggles.Text

/-- White space: the controls from tab to carriage return, the information separators, the space,
the next line, and the Unicode spaces and separators. -/
def isBlank (c : Char) : Bool :=
  let n := c.toNat
  (9 ≤ n && n ≤ 13) || (0x1C ≤ n && n ≤ 0x20) || n == 0x85 || n == 0xA0 || n == 0x1680 ||
    (0x2000 ≤ n && n ≤ 0x200A) || n == 0x2028 || n == 0x2029 || n == 0x202F || n == 0x205F ||
    n == 0x3000

theorem isBlank_of_isWhitespace {c : Char} (h : c.isWhitespace = true) : isBlank c = true := by
  simp only [Char.isWhitespace, Bool.or_eq_true, decide_eq_true_eq] at h
  rcases h with ((rfl | rfl) | rfl) | rfl <;> rfl

/-- Drops white space at both ends. -/
def trim (cs : List Char) : List Char :=
  ((cs.dropWhile isBlank).reverse.dropWhile isBlank).reverse

end FeatureToggles.Text
