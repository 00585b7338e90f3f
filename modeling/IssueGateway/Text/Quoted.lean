import IssueGateway.Text.CodePoint
import IssueGateway.Text.Digit
import IssueGateway.Text.Printable

/-!
# Quoted text

The form in which messages show a text: between quotes, with a backslash before the quote in use
and before backslashes, and with what cannot be printed written as an escape. So is a surrogate that
stands alone.
-/

namespace IssueGateway.Text

def singleQuote : Char := Char.ofNat 0x27

def doubleQuote : Char := Char.ofNat 0x22

/-- Single quotes, unless the text holds a single quote and no double quote. -/
def quoteMark (cs : List Char) : Char :=
  if cs.contains singleQuote && !cs.contains doubleQuote then doubleQuote else singleQuote

def paddedHex (width n : Nat) : List Char :=
  let digits := Nat.toDigits 16 n
  List.replicate (width - digits.length) '0' ++ digits

def escapeChar (mark : Char) (c : Char) : List Char :=
  if c = mark ∨ c = '\\' then ['\\', c]
  else if c = '\n' then ['\\', 'n']
  else if c = '\r' then ['\\', 'r']
  else if c = '\t' then ['\\', 't']
  else if isPrintable c then [c]
  else if c.toNat < 0x100 then '\\' :: 'x' :: paddedHex 2 c.toNat
  else if c.toNat < 0x10000 then '\\' :: 'u' :: paddedHex 4 c.toNat
  else '\\' :: 'U' :: paddedHex 8 c.toNat

def escapePoint (mark : Char) (n : Nat) : List Char :=
  if isSurrogate n then '\\' :: 'u' :: paddedHex 4 n else escapeChar mark (Char.ofNat n)

def quoted (s : String) : String :=
  let cs := s.toList
  let mark := quoteMark cs
  String.ofList (mark :: (points cs).flatMap (escapePoint mark) ++ [mark])

end IssueGateway.Text
