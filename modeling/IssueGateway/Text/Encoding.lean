import IssueGateway.Text.CodePoint

/-!
# Encodings of JSON text

JSON arrives as bytes in UTF-8, UTF-16 or UTF-32. A byte order mark names the encoding; without one
the zero bytes of the first characters do, since JSON starts with ASCII. Surrogates that stand alone
are let through in each of them.
-/

namespace IssueGateway.Text

def continuation? (b : UInt8) : Option Nat :=
  if 0x80 ≤ b ∧ b < 0xC0 then some (b.toNat - 0x80) else none

/-- Decodes UTF-8: shortest forms only, up to U+10FFFF. -/
def decodeUtf8 : List UInt8 → Option (List Char)
  | [] => some []
  | b0 :: rest =>
    if b0 < 0x80 then (Char.ofNat b0.toNat :: ·) <$> decodeUtf8 rest
    else if b0 < 0xC2 then none
    else if b0 < 0xE0 then
      match rest with
      | b1 :: rest => do
        let c1 ← continuation? b1
        let cs ← held? ((b0.toNat - 0xC0) * 64 + c1)
        (cs ++ ·) <$> decodeUtf8 rest
      | _ => none
    else if b0 < 0xF0 then
      match rest with
      | b1 :: b2 :: rest => do
        let c1 ← continuation? b1
        let c2 ← continuation? b2
        let n := ((b0.toNat - 0xE0) * 64 + c1) * 64 + c2
        if n < 0x800 then none
        else
          let cs ← held? n
          (cs ++ ·) <$> decodeUtf8 rest
      | _ => none
    else
      match rest with
      | b1 :: b2 :: b3 :: rest => do
        let c1 ← continuation? b1
        let c2 ← continuation? b2
        let c3 ← continuation? b3
        let n := (((b0.toNat - 0xF0) * 64 + c1) * 64 + c2) * 64 + c3
        if n < 0x10000 then none
        else
          let cs ← held? n
          (cs ++ ·) <$> decodeUtf8 rest
      | _ => none

/-- The order of the bytes inside a code unit. -/
inductive ByteOrder where
  | little
  | big
  deriving DecidableEq, Repr

def ByteOrder.value (order : ByteOrder) (bytes : List UInt8) : Nat :=
  let significant := match order with
    | .little => bytes.reverse
    | .big => bytes
  significant.foldl (fun acc b => 256 * acc + b.toNat) 0

/-- The characters of a code unit that is no half of a pair. A unit past all surrogates is one
character of a text that is held already. -/
def heldUnit (u : Nat) : List Char :=
  if isSurrogate u then held u else [Char.ofNat u]

/-- Joins surrogate pairs in a row of UTF-16 code units. -/
def joinSurrogates : List Nat → List Char
  | [] => []
  | [u] => heldUnit u
  | u :: v :: rest =>
    if 0xD800 ≤ u ∧ u < 0xDC00 ∧ 0xDC00 ≤ v ∧ v < 0xE000 then
      held (0x10000 + (u - 0xD800) * 0x400 + (v - 0xDC00)) ++ joinSurrogates rest
    else heldUnit u ++ joinSurrogates (v :: rest)

/-- The code units of UTF-16. -/
def units16 (order : ByteOrder) : List UInt8 → Option (List Nat)
  | [] => some []
  | a :: b :: rest => (order.value [a, b] :: ·) <$> units16 order rest
  | _ => none

/-- Decodes UTF-16. -/
def decodeUtf16 (order : ByteOrder) (bytes : List UInt8) : Option (List Char) :=
  (units16 order bytes).map joinSurrogates

/-- Decodes UTF-32. -/
def decodeUtf32 (order : ByteOrder) : List UInt8 → Option (List Char)
  | [] => some []
  | a :: b :: c :: d :: rest => do
    let cs ← held? (order.value [a, b, c, d])
    (cs ++ ·) <$> decodeUtf32 order rest
  | _ => none

/-- Decodes the bytes of a JSON text in whichever of the encodings they are in. -/
def decodeJsonBytes (bytes : List UInt8) : Option (List Char) :=
  match bytes with
  | 0x00 :: 0x00 :: 0xFE :: 0xFF :: rest => decodeUtf32 .big rest
  | 0xFF :: 0xFE :: 0x00 :: 0x00 :: rest => decodeUtf32 .little rest
  | 0xFE :: 0xFF :: rest => decodeUtf16 .big rest
  | 0xFF :: 0xFE :: rest => decodeUtf16 .little rest
  | 0xEF :: 0xBB :: 0xBF :: rest => decodeUtf8 rest
  | 0x00 :: b :: _ :: _ :: _ => if b = 0 then decodeUtf32 .big bytes else decodeUtf16 .big bytes
  | _ :: 0x00 :: c :: d :: _ =>
    if c = 0 ∧ d = 0 then decodeUtf32 .little bytes else decodeUtf16 .little bytes
  | [0x00, _] => decodeUtf16 .big bytes
  | [_, 0x00] => decodeUtf16 .little bytes
  | _ => decodeUtf8 bytes

end IssueGateway.Text
