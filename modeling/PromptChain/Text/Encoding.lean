/-
# Encodings of a text

Bytes that are to hold a JSON text do not say how they encode it.  A byte order mark in front shows
it (`Encoding.ofMark?`).  Without a mark the text still begins with two ASCII characters, unless it
has one character only, so the zeros among its first bytes show how many bytes a character takes
and which of them comes first (`Encoding.ofZeros`).  Bytes with neither are in UTF-8.

Code units of two bytes stand for a character alone or in pairs.  Half of a pair alone is no
character, and a text with such a half in it is torn.  A text can be torn in every encoding: four
bytes, and three in UTF-8, can be the number of a half as well.  A torn text is no text here, but it
is told apart from bytes that encode none at all, because some are left over, say, or are beyond the
last code point (`DecodeFault`).
-/
namespace PromptChain.Text

/-! ## 1. Characters of code units -/

/-- The first half of a pair. -/
def isHighHalf (n : Nat) : Bool := 0xD800 ≤ n && n < 0xDC00

/-- The second half of a pair. -/
def isLowHalf (n : Nat) : Bool := 0xDC00 ≤ n && n < 0xE000

/-- The character of a code unit; half of a pair alone has none. -/
def unitChar? (n : Nat) : Option Char :=
  if isHighHalf n || isLowHalf n then none else some (Char.ofNat n)

/-- The character of a pair of units. -/
def pairChar (high low : Nat) : Char :=
  Char.ofNat (0x10000 + (high - 0xD800) * 0x400 + (low - 0xDC00))

/-- The characters of a list of code units of sixteen bits, and nothing for each half alone. -/
def charsOfUnits : List Nat → List (Option Char)
  | [] => []
  | [n] => [unitChar? n]
  | high :: low :: rest =>
    if isHighHalf high && isLowHalf low then some (pairChar high low) :: charsOfUnits rest
    else unitChar? high :: charsOfUnits (low :: rest)

/-- The text of some characters, unless it is torn. -/
def whole? (chars : List (Option Char)) : Option String := (chars.mapM id).map String.ofList

/-! ## 2. Numbers of bytes -/

/-- Which byte of a number comes first. -/
inductive ByteOrder where
  | greatestFirst
  | leastFirst
  deriving DecidableEq, Repr

/-- The number that some bytes are. -/
def ByteOrder.value (order : ByteOrder) (bytes : List UInt8) : Nat :=
  let greatestFirst := match order with
    | .greatestFirst => bytes
    | .leastFirst => bytes.reverse
  greatestFirst.foldl (fun n b => 256 * n + b.toNat) 0

/-- The numbers that bytes are two by two, if none is left over. -/
def ByteOrder.pairs? (order : ByteOrder) : List UInt8 → Option (List Nat)
  | [] => some []
  | a :: b :: rest => (order.pairs? rest).map (order.value [a, b] :: ·)
  | _ => none

/-- The numbers that bytes are four by four, if none is left over. -/
def ByteOrder.quads? (order : ByteOrder) : List UInt8 → Option (List Nat)
  | [] => some []
  | a :: b :: c :: d :: rest => (order.quads? rest).map (order.value [a, b, c, d] :: ·)
  | _ => none

/-! ## 3. Encodings -/

/-- How bytes encode a text. -/
inductive Encoding where
  | utf8
  | utf16 (order : ByteOrder)
  | utf32 (order : ByteOrder)
  deriving DecidableEq, Repr

namespace Encoding

/-- The encoding that a byte order mark shows, and the bytes after the mark. -/
def ofMark? : List UInt8 → Option (Encoding × List UInt8)
  | 0 :: 0 :: 0xFE :: 0xFF :: rest => some (.utf32 .greatestFirst, rest)
  -- this mark begins with another one, so it is looked for first
  | 0xFF :: 0xFE :: 0 :: 0 :: rest => some (.utf32 .leastFirst, rest)
  | 0xFE :: 0xFF :: rest => some (.utf16 .greatestFirst, rest)
  | 0xFF :: 0xFE :: rest => some (.utf16 .leastFirst, rest)
  | 0xEF :: 0xBB :: 0xBF :: rest => some (.utf8, rest)
  | _ => none

/-- The encoding that the zeros among the first bytes show. -/
def ofZeros : List UInt8 → Encoding
  | [0, _] => .utf16 .greatestFirst
  | [_, 0] => .utf16 .leastFirst
  | 0 :: 0 :: _ :: _ :: _ => .utf32 .greatestFirst
  | 0 :: _ :: _ :: _ :: _ => .utf16 .greatestFirst
  | _ :: 0 :: 0 :: 0 :: _ => .utf32 .leastFirst
  | _ :: 0 :: _ :: _ :: _ => .utf16 .leastFirst
  | _ => .utf8

/-- The encoding of some bytes, and the bytes without a mark. -/
def ofBytes (bytes : List UInt8) : Encoding × List UInt8 :=
  (ofMark? bytes).getD (ofZeros bytes, bytes)

end Encoding

/-! ## 4. Texts -/

/-- Why bytes are no text. -/
inductive DecodeFault where
  /-- They encode none. -/
  | noText
  /-- They encode one that is torn. -/
  | torn
  deriving DecidableEq, Repr

/-- Bytes in UTF-8 with every half of a pair in them blotted out.  A half takes three bytes, the
first of which only ever begins a character, so the bytes around it mean what they meant before. -/
def blotHalves : List UInt8 → List UInt8
  | 0xED :: b :: c :: rest =>
    if 0xA0 ≤ b && b < 0xC0 && 0x80 ≤ c && c < 0xC0 then '?'.toUInt8 :: blotHalves rest
    else 0xED :: blotHalves (b :: c :: rest)
  | b :: rest => b :: blotHalves rest
  | [] => []

/-- The text that bytes are in UTF-8. -/
def utf8Text? (bytes : List UInt8) : Option String := String.fromUTF8? ⟨bytes.toArray⟩

/-- The text that bytes are in an encoding. -/
def Encoding.decode (bytes : List UInt8) : Encoding → Except DecodeFault String
  | .utf8 => match utf8Text? bytes with
    | some s => .ok s
    | none => .error (if (utf8Text? (blotHalves bytes)).isSome then .torn else .noText)
  | .utf16 order => match order.pairs? bytes with
    | some units => (whole? (charsOfUnits units)).elim (.error .torn) .ok
    | none => .error .noText
  | .utf32 order => match order.quads? bytes with
    | some points =>
      if points.all (· ≤ 0x10FFFF) then (whole? (points.map unitChar?)).elim (.error .torn) .ok
      else .error .noText
    | none => .error .noText

/-- The text that bytes are. -/
def decode (bytes : ByteArray) : Except DecodeFault String :=
  let (encoding, bytes) := Encoding.ofBytes bytes.data.toList
  encoding.decode bytes

end PromptChain.Text
