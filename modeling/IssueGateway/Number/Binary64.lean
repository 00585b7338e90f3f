/-!
# Binary floating point, exactly

A finite double is a whole number times a power of two. Here doubles are taken apart into that form
and put together from it: `nearest` rounds any fraction to the nearest double, ties to even, and
`exact` gives back the whole number and the power, so that all else is arithmetic on integers.
-/

namespace IssueGateway.Number

/-- A double as `± significand · 2 ^ exponent`. -/
structure Binary where
  negative : Bool
  significand : Nat
  exponent : Int
  deriving DecidableEq, Repr

def fractionBits : Nat := 52

def leastExponent : Int := -1074

/-- Bit patterns from here on are infinite or no number. -/
def infinityBits : Nat := 0x7FF0000000000000

/-- A finite double taken apart; `none` for an infinity or a non-number. -/
def finite? (x : Float) : Option Binary :=
  let bits := x.toBits.toNat
  let negative := Nat.pow 2 63 ≤ bits
  let magnitude := bits % Nat.pow 2 63
  let biased := magnitude / Nat.pow 2 fractionBits
  let fraction := magnitude % Nat.pow 2 fractionBits
  if infinityBits ≤ magnitude then none
  else if biased = 0 then some ⟨negative, fraction, leastExponent⟩
  else some ⟨negative, fraction + Nat.pow 2 fractionBits, leastExponent + (biased - 1 : Nat)⟩

def withSign (negative : Bool) (magnitude : Nat) : Float :=
  Float.ofBits (UInt64.ofNat (if negative then Nat.pow 2 63 + magnitude else magnitude))

def infinity : Float := withSign false infinityBits

def notANumber : Float := withSign false (infinityBits + Nat.pow 2 51)

/-- The quotient rounded to a whole number, a half going to the even neighbour. -/
def roundHalfEven (num den : Nat) : Nat :=
  let q := num / den
  let r := num % den
  if 2 * r < den ∨ (2 * r = den ∧ q % 2 = 0) then q else q + 1

/-- The fraction `num / den` times `2 ^ (-exponent)`, as numerator and denominator. -/
def scaled (num den : Nat) (exponent : Int) : Nat × Nat :=
  if 0 ≤ exponent then (num, den * Nat.pow 2 exponent.toNat)
  else (num * Nat.pow 2 (-exponent).toNat, den)

/-- The exponent at which the fraction has 53 significant bits, or the least one. -/
def unitExponent (num den : Nat) : Int :=
  let guess : Int := (Nat.log2 num : Int) - Nat.log2 den - fractionBits
  let (n, d) := scaled num den guess
  let exponent := if n < d * Nat.pow 2 fractionBits then guess - 1 else guess
  max leastExponent exponent

/-- The bit pattern of the double nearest to `num / den`; past the last finite double the pattern
is `infinityBits` or more. -/
def nearestBits (num den : Nat) : Nat :=
  if num = 0 then 0
  else
    let exponent := unitExponent num den
    let (n, d) := scaled num den exponent
    (exponent - leastExponent).toNat * Nat.pow 2 fractionBits + roundHalfEven n d

/-- The double nearest to `± num / den`, or `none` if it is past the last finite one. -/
def nearest? (negative : Bool) (num den : Nat) : Option Float :=
  let bits := nearestBits num den
  if bits < infinityBits then some (withSign negative bits) else none

/-- The double nearest to `± digits · 10 ^ exponent`; past the last finite one it is infinite. -/
def ofDecimal (negative : Bool) (digits : Nat) (exponent : Int) : Float :=
  let size : Int := (Nat.toDigits 10 digits).length + exponent
  if digits = 0 ∨ size < -330 then withSign negative 0
  else if 310 < size then withSign negative infinityBits
  else
    let fraction := if 0 ≤ exponent then (digits * Nat.pow 10 exponent.toNat, 1)
      else (digits, Nat.pow 10 (-exponent).toNat)
    (nearest? negative fraction.1 fraction.2).getD (withSign negative infinityBits)

/-- The double nearest to an integer, or `none` if it is past the last finite one. -/
def ofInt? (n : Int) : Option Float :=
  nearest? (n < 0) n.natAbs 1

end IssueGateway.Number
