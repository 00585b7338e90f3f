/-!
# Code points

A text is a row of code points, and one that arrives as JSON may have surrogates in it that are no
half of a pair. A `String` has no surrogates, so such a one is held as two characters: U+10FFFF,
which is no character of any script, and behind it a private one that tells the surrogate. U+10FFFF
itself is held twice. Texts that differ are so held as strings that differ, and `points` gives the
code points back where it matters how a text is written or how long it is.
-/

namespace IssueGateway.Text

def isSurrogate (n : Nat) : Bool :=
  0xD800 ≤ n && n < 0xE000

/-- The character that a pair of characters starts with. -/
def pairMark : Char := Char.ofNat 0x10FFFF

/-- The character that stands for the first surrogate, behind the mark; the others follow. -/
def firstTold : Nat := 0x10F000

/-- The characters that hold a code point. -/
def held (n : Nat) : List Char :=
  if isSurrogate n then [pairMark, Char.ofNat (firstTold + (n - 0xD800))]
  else if n = pairMark.toNat then [pairMark, pairMark]
  else [Char.ofNat n]

/-- The characters that hold a code point, unless the number is past the last one. -/
def held? (n : Nat) : Option (List Char) :=
  if n < 0x110000 then some (held n) else none

/-- The code point that is told behind the mark. -/
def told? (c : Char) : Option Nat :=
  if c = pairMark then some pairMark.toNat
  else if firstTold ≤ c.toNat ∧ c.toNat < firstTold + 0x800 then
    some (c.toNat - firstTold + 0xD800)
  else none

/-- The code points of a text. -/
def points : List Char → List Nat
  | [] => []
  | [c] => [c.toNat]
  | c :: d :: rest =>
    match if c = pairMark then told? d else none with
    | some n => n :: points rest
    | none => c.toNat :: points (d :: rest)

def replacement : Char := Char.ofNat 0xFFFD

/-- A text with one character for each code point; a surrogate becomes the replacement character. -/
def plain (cs : List Char) : List Char :=
  (points cs).map fun n => if isSurrogate n then replacement else Char.ofNat n

/-- Holds a text that has no surrogates. -/
def hold (cs : List Char) : List Char :=
  cs.flatMap fun c => held c.toNat

end IssueGateway.Text
