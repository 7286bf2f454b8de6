import ChainHistory.Text.Utf8

namespace ChainHistory.Text.Percent

/-- The characters that stand for themselves in every part of a URL. -/
def isUnreserved (c : Char) : Bool :=
  ('a' ≤ c && c ≤ 'z') || ('A' ≤ c && c ≤ 'Z') || ('0' ≤ c && c ≤ '9') ||
    c = '_' || c = '.' || c = '-' || c = '~'

def escapeByte (b : UInt8) : List Char :=
  ['%', hexUpper (b.toNat / 16), hexUpper (b.toNat % 16)]

/-- Escapes the bytes of every character outside `keeps`. -/
def encodeUnless (keeps : Char → Bool) (cs : List Char) : List Char :=
  cs.flatMap fun c => if keeps c then [c] else (Utf8.encodeChar c).flatMap escapeByte

/-- Escapes the bytes of every character that is neither unreserved nor in `safe`. -/
def encodeKeeping (safe : List Char) (cs : List Char) : List Char :=
  encodeUnless (fun c => isUnreserved c || c ∈ safe) cs

def encode (cs : List Char) : List Char :=
  encodeKeeping [] cs

/-- The bytes that a text with escapes stands for; a percent sign that begins no escape stands for
itself. -/
def bytes : List Char → List UInt8
  | [] => []
  | c :: cs =>
    if c = '%' then
      match cs with
      | a :: b :: rest =>
        match hexValue? a, hexValue? b with
        | some x, some y => (16 * x + y).toUInt8 :: bytes rest
        | _, _ => 0x25 :: bytes (a :: b :: rest)
      | [a] => 0x25 :: bytes [a]
      | [] => [0x25]
    else Utf8.encodeChar c ++ bytes cs

def decode (cs : List Char) : List Char :=
  Utf8.decodeReplacing (bytes cs)

end ChainHistory.Text.Percent
