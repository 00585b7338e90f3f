import IssueGateway.Text.Quoted

/-!
# Request ids

Every request has an id that appears in each of its log lines and in its response. A caller may
choose it; otherwise it is fresh, made of random bits.
-/

namespace IssueGateway.Rest

def isIdChar (c : Char) : Bool :=
  c.isAlphanum || c == '.' || c == '_' || c == '-'

/-- Whether a text can be an id: 8 to 64 such characters, after which one line end may follow. -/
def isRequestId (s : String) : Bool :=
  let body := s.toList.takeWhile isIdChar
  let rest := s.toList.dropWhile isIdChar
  8 ≤ body.length && body.length ≤ 64 && (rest == [] || rest == ['\n'])

def requestId (fresh : String) (header : Option String) : String :=
  (header.filter isRequestId).getD fresh

/-- Random bits with the marks of a random id: the variant, `10`, in the bits from 62 on and the
version, 4, in those from 76 on. -/
def marked (random : BitVec 128) : BitVec 128 :=
  let varied := random &&& ~~~(0xC000#128 <<< 48) ||| 0x8000#128 <<< 48
  varied &&& ~~~(0xF000#128 <<< 64) ||| 4#128 <<< 76

/-- Groups of 8, 4, 4, 4 and 12 digits with dashes between. -/
def grouped (digits : List Char) : List Char :=
  digits.take 8 ++ '-' :: (digits.drop 8).take 4 ++ '-' :: (digits.drop 12).take 4 ++
    '-' :: (digits.drop 16).take 4 ++ '-' :: digits.drop 20

/-- A fresh id. -/
def randomId (random : BitVec 128) : String :=
  String.ofList (grouped (Text.paddedHex 32 (marked random).toNat))

end IssueGateway.Rest
