import ChainHistory.Json.Reader

namespace ChainHistory.Json

open Text

/-- The width of a code unit and the order of its bytes. -/
inductive Encoding
  | utf8
  | utf16 (bigEndian : Bool)
  | utf32 (bigEndian : Bool)

/-- The encoding of a JSON text, from its byte order mark or from where its first zero bytes lie,
and how many bytes the mark has. -/
def encodingOf : List UInt8 → Encoding × Nat
  | 0x00 :: 0x00 :: 0xfe :: 0xff :: _ => (.utf32 true, 4)
  | 0xff :: 0xfe :: 0x00 :: 0x00 :: _ => (.utf32 false, 4)
  | 0xfe :: 0xff :: _ => (.utf16 true, 2)
  | 0xff :: 0xfe :: _ => (.utf16 false, 2)
  | 0xef :: 0xbb :: 0xbf :: _ => (.utf8, 3)
  | a :: b :: c :: d :: _ =>
    if a = 0 then (if b = 0 then .utf32 true else .utf16 true, 0)
    else if b = 0 then (if c = 0 && d = 0 then .utf32 false else .utf16 false, 0)
    else (.utf8, 0)
  | [a, b] =>
    if a = 0 then (.utf16 true, 0) else if b = 0 then (.utf16 false, 0) else (.utf8, 0)
  | _ => (.utf8, 0)

/-- The 16-bit units of some bytes, of which there must be an even number. -/
def units16 (bigEndian : Bool) : List UInt8 → Option (List Nat)
  | [] => some []
  | [_] => none
  | a :: b :: bs =>
    let n := if bigEndian then a.toNat * 256 + b.toNat else b.toNat * 256 + a.toNat
    (units16 bigEndian bs).map (n :: ·)

/-- Joins the halves of pairs; half a pair alone is replaced. -/
def ofUnits16 : List Nat → List Char
  | [] => []
  | [n] => [if 0xd800 ≤ n ∧ n ≤ 0xdfff then '\uFFFD' else Char.ofNat n]
  | h :: l :: ns =>
    if 0xd800 ≤ h ∧ h ≤ 0xdbff ∧ 0xdc00 ≤ l ∧ l ≤ 0xdfff then
      Char.ofNat (0x10000 + (h - 0xd800) * 0x400 + (l - 0xdc00)) :: ofUnits16 ns
    else
      (if 0xd800 ≤ h ∧ h ≤ 0xdfff then '\uFFFD' else Char.ofNat h) :: ofUnits16 (l :: ns)

/-- The characters of 32-bit units, none of which may lie above the last code point. -/
def ofUnits32 (bigEndian : Bool) : List UInt8 → Option (List Char)
  | [] => some []
  | a :: b :: c :: d :: bs =>
    let n := if bigEndian then ((a.toNat * 256 + b.toNat) * 256 + c.toNat) * 256 + d.toNat
      else ((d.toNat * 256 + c.toNat) * 256 + b.toNat) * 256 + a.toNat
    if n > 0x10ffff then none
    else (ofUnits32 bigEndian bs).map
      ((if 0xd800 ≤ n ∧ n ≤ 0xdfff then '\uFFFD' else Char.ofNat n) :: ·)
  | _ => none

def decodeBytes (bs : List UInt8) : Option (List Char) :=
  let (encoding, mark) := encodingOf bs
  match encoding with
  | .utf8 => Utf8.decodeWithSurrogates (bs.drop mark)
  | .utf16 bigEndian => (units16 bigEndian (bs.drop mark)).map ofUnits16
  | .utf32 bigEndian => ofUnits32 bigEndian (bs.drop mark)

/-- Reads a JSON document from bytes in any of the encodings. Its texts are made of characters, and
half a surrogate pair alone is none: escaped or encoded, in a value or in a key, it is read as
U+FFFD. Texts that differ in such halves alone are therefore not told apart, and what becomes of the
halves themselves is left out. -/
def ofBytes (bs : List UInt8) : Except ReadError Json :=
  (orMalformed (decodeBytes bs)).bind parse

end ChainHistory.Json
