import IssueGateway.Text.Encoding

/-!
# Percent escapes

Addresses hold a character outside their alphabet as the bytes of its UTF-8 form, each as a percent
sign and two hexadecimal digits. Reading such text back accepts any bytes: what is no UTF-8 becomes
the replacement character, one for each piece that a decoder would reject at once.
-/

namespace IssueGateway.Text

def hexDigit? (c : Char) : Option Nat :=
  if '0' ≤ c && c ≤ '9' then some (c.toNat - 0x30)
  else if 'a' ≤ c && c ≤ 'f' then some (c.toNat - 0x61 + 10)
  else if 'A' ≤ c && c ≤ 'F' then some (c.toNat - 0x41 + 10)
  else none

def escapeByte (b : UInt8) : List Char :=
  '%' :: [b.toNat / 16, b.toNat % 16].map fun d =>
    if d < 10 then Char.ofNat (0x30 + d) else Char.ofNat (0x41 + d - 10)

/-- Escapes all characters but those of a class. -/
def percentEncode (keep : Char → Bool) (cs : List Char) : List Char :=
  cs.flatMap fun c => if keep c then [c] else (String.singleton c).toUTF8.toList.flatMap escapeByte

/-- A UTF-8 character of which some continuation bytes are still to come. -/
structure Pending where
  remaining : Nat
  value : Nat
  low : UInt8 := 0x80
  high : UInt8 := 0xBF

/-- What a byte at the start of a character gives: characters that are complete and one that is
not. -/
def firstByte (b : UInt8) : List Char × Option Pending :=
  let n := b.toNat
  if b < 0x80 then ([Char.ofNat n], none)
  else if b < 0xC2 then ([replacement], none)
  else if b < 0xE0 then ([], some { remaining := 1, value := n - 0xC0 })
  else if b = 0xE0 then ([], some { remaining := 2, value := 0, low := 0xA0 })
  else if b = 0xED then ([], some { remaining := 2, value := 0xD, high := 0x9F })
  else if b < 0xF0 then ([], some { remaining := 2, value := n - 0xE0 })
  else if b = 0xF0 then ([], some { remaining := 3, value := 0, low := 0x90 })
  else if b < 0xF4 then ([], some { remaining := 3, value := n - 0xF0 })
  else if b = 0xF4 then ([], some { remaining := 3, value := 4, high := 0x8F })
  else ([replacement], none)

def nextByte (pending : Option Pending) (b : UInt8) : List Char × Option Pending :=
  match pending with
  | none => firstByte b
  | some p =>
    if p.low ≤ b ∧ b ≤ p.high then
      let value := p.value * 64 + (b.toNat - 0x80)
      if p.remaining ≤ 1 then ([Char.ofNat value], none)
      else ([], some { remaining := p.remaining - 1, value })
    else (replacement :: (firstByte b).1, (firstByte b).2)

/-- Decodes UTF-8 after an unfinished character, replacing what is malformed. -/
def decodeLossyFrom (pending : Option Pending) : List UInt8 → List Char
  | [] => if pending.isSome then [replacement] else []
  | b :: rest => (nextByte pending b).1 ++ decodeLossyFrom (nextByte pending b).2 rest

/-- Decodes UTF-8, replacing what is malformed. -/
def decodeLossy (bytes : List UInt8) : List Char :=
  decodeLossyFrom none bytes

/-- Replaces the escapes by the characters that they stand for; `bytes` are the escaped bytes just
read, the last one first. -/
def percentDecodeFrom (bytes : List UInt8) : List Char → List Char
  | '%' :: a :: b :: rest =>
    match hexDigit? a, hexDigit? b with
    | some high, some low => percentDecodeFrom (UInt8.ofNat (16 * high + low) :: bytes) rest
    | _, _ => decodeLossy bytes.reverse ++ '%' :: percentDecodeFrom [] (a :: b :: rest)
  | c :: rest => decodeLossy bytes.reverse ++ c :: percentDecodeFrom [] rest
  | [] => decodeLossy bytes.reverse

def percentDecode (cs : List Char) : List Char :=
  percentDecodeFrom [] cs

end IssueGateway.Text
