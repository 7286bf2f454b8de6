import ChainHistory.Text.Digit

namespace ChainHistory.Text.Utf8

def encodeChar (c : Char) : List UInt8 :=
  let n := c.toNat
  if n < 0x80 then [n.toUInt8]
  else if n < 0x800 then [(0xc0 + n / 0x40).toUInt8, (0x80 + n % 0x40).toUInt8]
  else if n < 0x10000 then
    [(0xe0 + n / 0x1000).toUInt8, (0x80 + n / 0x40 % 0x40).toUInt8, (0x80 + n % 0x40).toUInt8]
  else
    [(0xf0 + n / 0x40000).toUInt8, (0x80 + n / 0x1000 % 0x40).toUInt8,
      (0x80 + n / 0x40 % 0x40).toUInt8, (0x80 + n % 0x40).toUInt8]

def encode (cs : List Char) : List UInt8 :=
  cs.flatMap encodeChar

inductive Fault
  | startByte
  | continuationByte
  | endOfData
  deriving DecidableEq

/-- How one character begins: how many bytes follow the lead byte, and the code point or what is
wrong with the bytes so far. -/
structure Step where
  more : Nat
  value : Except Fault Nat

def isContinuation (b : UInt8) : Bool := 0x80 ≤ b && b ≤ 0xbf

/-- The bytes that may follow the lead byte `b`: shorter forms, surrogates and numbers above the
last code point are left out. -/
def secondAllowed (b c : UInt8) : Bool :=
  isContinuation c &&
    (if b = 0xe0 then 0xa0 ≤ c else if b = 0xed then c ≤ 0x9f
    else if b = 0xf0 then 0x90 ≤ c else if b = 0xf4 then c ≤ 0x8f else true)

def low6 (b : UInt8) : Nat := b.toNat % 0x40

/-- Reads the character that begins with the byte `b`; a fault takes the longest start that could
have been continued. -/
def step (b : UInt8) (rest : List UInt8) : Step :=
  if b < 0x80 then ⟨0, .ok b.toNat⟩
  else if b < 0xc2 then ⟨0, .error .startByte⟩
  else if b < 0xe0 then
    match rest with
    | [] => ⟨0, .error .endOfData⟩
    | c :: _ =>
      if isContinuation c then ⟨1, .ok (b.toNat % 0x20 * 0x40 + low6 c)⟩
      else ⟨0, .error .continuationByte⟩
  else if b < 0xf0 then
    match rest with
    | [] => ⟨0, .error .endOfData⟩
    | c :: rest =>
      if !secondAllowed b c then ⟨0, .error .continuationByte⟩
      else match rest with
        | [] => ⟨1, .error .endOfData⟩
        | d :: _ =>
          if isContinuation d then
            ⟨2, .ok (b.toNat % 0x10 * 0x1000 + low6 c * 0x40 + low6 d)⟩
          else ⟨1, .error .continuationByte⟩
  else if b < 0xf5 then
    match rest with
    | [] => ⟨0, .error .endOfData⟩
    | c :: rest =>
      if !secondAllowed b c then ⟨0, .error .continuationByte⟩
      else match rest with
        | [] => ⟨1, .error .endOfData⟩
        | d :: rest =>
          if !isContinuation d then ⟨1, .error .continuationByte⟩
          else match rest with
            | [] => ⟨2, .error .endOfData⟩
            | e :: _ =>
              if isContinuation e then
                ⟨3, .ok (b.toNat % 8 * 0x40000 + low6 c * 0x1000 + low6 d * 0x40 + low6 e)⟩
              else ⟨2, .error .continuationByte⟩
  else ⟨0, .error .startByte⟩

/-- Bytes that are no text: the first of them, where they stand and why they are refused. -/
structure Error where
  byte : UInt8
  start : Nat
  size : Nat
  fault : Fault
  deriving DecidableEq

def Fault.reason : Fault → String
  | .startByte => "invalid start byte"
  | .continuationByte => "invalid continuation byte"
  | .endOfData => "unexpected end of data"

def Error.message (e : Error) : String :=
  let place :=
    if e.size = 1 then
      s!"byte 0x{String.ofList (hexPadded 2 e.byte.toNat)} in position {e.start}"
    else s!"bytes in position {e.start}-{e.start + e.size - 1}"
  s!"'utf-8' codec can't decode {place}: {e.fault.reason}"

/-- Reads bytes that begin at offset `start`. -/
def decodeFrom (start : Nat) (bs : List UInt8) : Except Error (List Char) :=
  match bs with
  | [] => .ok []
  | b :: rest =>
    let s := step b rest
    match s.value with
    | .error f => .error ⟨b, start, s.more + 1, f⟩
    | .ok n => (decodeFrom (start + s.more + 1) (rest.drop s.more)).map (Char.ofNat n :: ·)
termination_by bs.length
decreasing_by simp only [List.length_drop, List.length_cons]; omega

def decode (bs : List UInt8) : Except Error (List Char) :=
  decodeFrom 0 bs

/-- The bytes in blocks of `size + 1`; the last one may be shorter. -/
def blocks (size : Nat) (bs : List UInt8) : List (List UInt8) :=
  match bs with
  | [] => []
  | b :: rest => (b :: rest.take size) :: blocks size (rest.drop size)
termination_by bs.length
decreasing_by simp only [List.length_drop, List.length_cons]; omega

/-- Whether the fault is that more bytes are missing. The first two bytes of a surrogate wait for
the third before they are refused. -/
def Error.isCutOff (e : Error) (left : List UInt8) : Bool :=
  e.fault = .endOfData ||
    match left with
    | [b, c] => b = 0xed && isContinuation c
    | _ => false

/-- Reads a block up to a character that its end cuts off, and gives back the bytes of that one. -/
def decodeBlock (bs : List UInt8) : Except Error (List Char × List UInt8) :=
  match decode bs with
  | .ok cs => .ok (cs, [])
  | .error e =>
    let left := bs.drop e.start
    if e.isCutOff left then (decode (bs.take e.start)).map (·, left) else .error e

/-- Reads blocks, each behind the bytes that the one before left. A fault's place counts from the
start of these. -/
def decodeBlocks (left : List UInt8) : List (List UInt8) → Except Error (List Char)
  | [] => decode left
  | block :: blocks => do
    let (cs, left) ← decodeBlock (left ++ block)
    return cs ++ (← decodeBlocks left blocks)

/-- Reads any bytes: each fault gives one replacement character. -/
def decodeReplacing (bs : List UInt8) : List Char :=
  match bs with
  | [] => []
  | b :: rest =>
    let s := step b rest
    (match s.value with
      | .error _ => '\uFFFD'
      | .ok n => Char.ofNat n) :: decodeReplacing (rest.drop s.more)
termination_by bs.length
decreasing_by simp only [List.length_drop, List.length_cons]; omega

/-- Whether the bytes begin with a surrogate in three bytes, which is no character. -/
def startsSurrogate : List UInt8 → Bool
  | b :: c :: d :: _ => b = 0xed && 0xa0 ≤ c && c ≤ 0xbf && isContinuation d
  | _ => false

/-- Reads text in which surrogates may be encoded; each of them gives a replacement character. -/
def decodeWithSurrogates (bs : List UInt8) : Option (List Char) :=
  match bs with
  | [] => some []
  | b :: rest =>
    if startsSurrogate (b :: rest) then
      (decodeWithSurrogates (rest.drop 2)).map ('\uFFFD' :: ·)
    else
      let s := step b rest
      match s.value with
      | .error _ => none
      | .ok n => (decodeWithSurrogates (rest.drop s.more)).map (Char.ofNat n :: ·)
termination_by bs.length
decreasing_by all_goals simp only [List.length_drop, List.length_cons]; omega

end ChainHistory.Text.Utf8
