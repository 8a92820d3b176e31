/-!
# Blanks and trimming

Blanks separate words and surround lines. They are the characters with Unicode's White_Space
property: the space, the tabs and line ends, and the wider, narrower and unbreakable spaces of
other scripts.

## Main definitions

* `isBlank`: the blanks.
* `trimStart`, `trimEnd`, `trim`: a text without the blanks at its start, its end, or both.
-/

namespace LineBasic.Text

/-- The characters that count as blank. -/
def isBlank (c : Char) : Bool :=
  let code := c.toNat
  (0x9 ≤ code && code ≤ 0xd) || code == 0x20 || code == 0x85 || code == 0xa0 || code == 0x1680 ||
    (0x2000 ≤ code && code ≤ 0x200a) || code == 0x2028 || code == 0x2029 || code == 0x202f ||
    code == 0x205f || code == 0x3000

/-- A text without the blanks at its start. -/
def trimStart (cs : List Char) : List Char := cs.dropWhile isBlank

/-- A text without the blanks at its end. -/
def trimEnd (cs : List Char) : List Char := (cs.reverse.dropWhile isBlank).reverse

/-- A text without the blanks at its start and its end. -/
def trim (cs : List Char) : List Char := trimEnd (trimStart cs)

end LineBasic.Text
