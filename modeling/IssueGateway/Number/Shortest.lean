import IssueGateway.Number.Binary64
import IssueGateway.Text.Digit

/-!
# The shortest numeral of a double

A double is written with the fewest significant digits that read back as it, and among those with
the digits nearest to it. The reals that read back as a double form an interval around it, whose
ends belong to it when the significand is even.
-/

namespace IssueGateway.Number

structure Interval where
  low : Nat
  value : Nat
  high : Nat
  den : Nat
  closed : Bool
  deriving Repr

/-- The reals that round to `significand · 2 ^ exponent`. Below a power of two the gap is half as
wide. -/
def Interval.around (significand : Nat) (exponent : Int) : Interval :=
  let narrow := significand = Nat.pow 2 fractionBits ∧ leastExponent < exponent
  let scale := if 0 ≤ exponent then Nat.pow 2 exponent.toNat else 1
  let den := if 0 ≤ exponent then 4 else 4 * Nat.pow 2 (-exponent).toNat
  { low := (4 * significand - if narrow then 1 else 2) * scale
    value := 4 * significand * scale
    high := (4 * significand + 2) * scale
    den := den
    closed := significand % 2 = 0 }

/-- Whether `digits · 10 ^ exponent` lies in the interval. -/
def Interval.contains (i : Interval) (digits : Nat) (exponent : Int) : Bool :=
  let point := if 0 ≤ exponent then digits * Nat.pow 10 exponent.toNat * i.den else digits * i.den
  let scale := if 0 ≤ exponent then 1 else Nat.pow 10 (-exponent).toNat
  if i.closed then i.low * scale ≤ point && point ≤ i.high * scale
  else i.low * scale < point && point < i.high * scale

/-- The decimal exponent of a positive value: `10 ^ (e - 1) ≤ value < 10 ^ e`. -/
def decimalExponent (num den : Nat) : Int :=
  if den ≤ num then (Text.natural (num / den)).length
  else
    -- the reciprocal is above one, so its integer part counts the zeros up to one digit
    let guess : Int := 1 - (Text.natural (den / num)).length
    if num * Nat.pow 10 (-guess).toNat < den then guess else guess + 1

/-- The two neighbours of the value on the grid of step `10 ^ exponent`, the nearer one first; of
two equally near ones the even one. -/
def neighbours (num den : Nat) (exponent : Int) : Nat × Nat :=
  let n := if 0 ≤ exponent then num else num * Nat.pow 10 (-exponent).toNat
  let d := if 0 ≤ exponent then den * Nat.pow 10 exponent.toNat else den
  let floor := n / d
  if roundHalfEven n d = floor then (floor, floor + 1) else (floor + 1, floor)

/-- Tries grids of `count`, `count + 1`, ... digits until one has a point in the interval. -/
def shortestFrom (i : Interval) (top : Int) : Nat → Nat → Nat × Int
  | 0, count => ((neighbours i.value i.den (top - count)).1, top - count)
  | fuel + 1, count =>
    let exponent := top - count
    let (near, far) := neighbours i.value i.den exponent
    if i.contains near exponent then (near, exponent)
    else if i.contains far exponent then (far, exponent)
    else shortestFrom i top fuel (count + 1)

/-- The digits and the decimal exponent of a positive double's shortest numeral. Seventeen digits
always suffice. -/
def shortest (significand : Nat) (exponent : Int) : Nat × Int :=
  let i := Interval.around significand exponent
  shortestFrom i (decimalExponent i.value i.den) 16 1

structure Layout where
  /-- The decimal point may stand this many places left of the first digit. -/
  leadingZeros : Nat
  wholeDigits : Nat
  /-- The least number of exponent digits. -/
  exponentWidth : Nat
  /-- What follows an integer part that has no fraction. -/
  wholeMark : List Char
  deriving Repr

/-- Numerals are positional from `0.0001` up to sixteen digits and scientific beyond, with a signed
exponent of at least two digits, and a whole number keeps its `.0`. -/
def layout : Layout :=
  { leadingZeros := 3, wholeDigits := 16, exponentWidth := 2, wholeMark := ['.', '0'] }

/-- Lays out the significant digits `0.d₁d₂… · 10 ^ point`. -/
def Layout.write (l : Layout) (digits : List Char) (point : Int) : List Char :=
  if point ≤ -(l.leadingZeros + 1 : Int) ∨ (l.wholeDigits : Int) < point then
    let exponent := point - 1
    let fraction := match digits.drop 1 with
      | [] => []
      | rest => '.' :: rest
    digits.take 1 ++ fraction ++ 'e' :: (if exponent < 0 then '-' else '+') ::
      Text.padded l.exponentWidth exponent.natAbs
  else if point ≤ 0 then
    '0' :: '.' :: (List.replicate (-point).toNat '0' ++ digits)
  else
    let whole := point.toNat
    if digits.length ≤ whole then
      digits ++ List.replicate (whole - digits.length) '0' ++ l.wholeMark
    else digits.take whole ++ '.' :: digits.drop whole

def dropTrailingZeros (digits : List Char) : List Char :=
  (digits.reverse.dropWhile (· == '0')).reverse

def Binary.numeral (b : Binary) : List Char :=
  let sign := if b.negative then ['-'] else []
  if b.significand = 0 then sign ++ ['0'] ++ layout.wholeMark
  else
    let (digits, exponent) := shortest b.significand b.exponent
    let text := Text.natural digits
    sign ++ layout.write (dropTrailingZeros text) (text.length + exponent)

/-- The shortest numeral of a double; the infinities are `inf` and `-inf`, the non-number `nan`. -/
def numeral (x : Float) : String :=
  match finite? x with
  | some b => String.ofList b.numeral
  | none => if x.isNaN then "nan" else if x < 0 then "-inf" else "inf"

/-- The whole number that a finite double equals, if it does. -/
def whole? (x : Float) : Option Int :=
  (finite? x).bind fun b =>
    let magnitude := if 0 ≤ b.exponent then some (b.significand * Nat.pow 2 b.exponent.toNat)
      else
        let unit := Nat.pow 2 (-b.exponent).toNat
        if b.significand % unit = 0 then some (b.significand / unit) else none
    magnitude.map fun m => if b.negative then -(m : Int) else m

end IssueGateway.Number
