/-!
# Blank characters

Three sets of blanks: the white space of Unicode, the one that trimming text removes, which has four
control characters more, and the six blanks of ASCII.
-/

namespace RequestPipeline.Text

/-- The white space of Unicode. -/
def isWhiteSpace (c : Char) : Bool :=
  let n := c.toNat
  (9 ≤ n && n ≤ 13) || n == 32 || n == 0x85 || n == 0xa0 || n == 0x1680
    || (0x2000 ≤ n && n ≤ 0x200a) || n == 0x2028 || n == 0x2029 || n == 0x202f || n == 0x205f
    || n == 0x3000

/-- The blanks that trimming removes. -/
def isBlank (c : Char) : Bool := isWhiteSpace c || (28 ≤ c.toNat && c.toNat ≤ 31)

/-- Removes what satisfies `p` from both ends. -/
def trimWhere (p : Char → Bool) (s : List Char) : List Char :=
  ((s.dropWhile p).reverse.dropWhile p).reverse

/-- Removes what satisfies `p` from the end. -/
def trimEndWhere (p : Char → Bool) (s : List Char) : List Char :=
  (s.reverse.dropWhile p).reverse

/-- Removes the blanks at both ends. -/
def trim (s : List Char) : List Char := trimWhere isBlank s

end RequestPipeline.Text
