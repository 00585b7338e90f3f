/-!
# Blanks

The characters that count as white space in text, and trimming them off both ends. Numerals are
read with a slightly smaller set: the four separators U+001C to U+001F are blanks of text but stay
part of a numeral and spoil it.
-/

namespace IssueGateway.Text

/-- White space of any script: the ASCII blanks and separators, and the Unicode spaces. -/
def isBlank (c : Char) : Bool :=
  let n := c.toNat
  (9 ≤ n && n ≤ 13) || (28 ≤ n && n ≤ 32) || n == 0x85 || n == 0xA0 || n == 0x1680 ||
    (0x2000 ≤ n && n ≤ 0x200A) || n == 0x2028 || n == 0x2029 || n == 0x202F || n == 0x205F ||
    n == 0x3000

def isNumeralBlank (c : Char) : Bool :=
  isBlank c && !(28 ≤ c.toNat && c.toNat ≤ 31)

/-- Drops the characters of a class from both ends. -/
def trimBy (drop : Char → Bool) (cs : List Char) : List Char :=
  ((cs.dropWhile drop).reverse.dropWhile drop).reverse

/-- The text without its leading and trailing blanks. -/
def trimBlanks (s : String) : String :=
  String.ofList (trimBy isBlank s.toList)

end IssueGateway.Text
