import ChainHistory.Json.Basic
import ChainHistory.Number.Real
import ChainHistory.Text.Utf8

namespace ChainHistory.Json

open Text Number

/-- Only these four characters may stand between tokens. -/
def isSpace (c : Char) : Bool := c = ' ' || c = '\t' || c = '\r' || c = '\n'

def skipSpace (cs : List Char) : List Char := cs.dropWhile isSpace

/-- Takes off a word that must stand at the start. -/
def expect (word : List Char) (cs : List Char) : Option (List Char) :=
  if word.isPrefixOf cs then some (cs.drop word.length) else none

/-- Four hexadecimal digits. -/
def readUnit : List Char → Option (Nat × List Char)
  | a :: b :: c :: d :: cs => do
    let a ← hexValue? a
    let b ← hexValue? b
    let c ← hexValue? c
    let d ← hexValue? d
    some (((a * 16 + b) * 16 + c) * 16 + d, cs)
  | _ => none

/-- The character of a code unit, with the second half of a pair if one follows; half a pair alone
is no character and is replaced. -/
def readEscapedUnit (cs : List Char) : Option (Char × List Char) := do
  let (high, cs) ← readUnit cs
  if 0xd800 ≤ high ∧ high ≤ 0xdbff then
    match cs with
    | '\\' :: 'u' :: rest =>
      match readUnit rest with
      | some (low, rest) =>
        if 0xdc00 ≤ low ∧ low ≤ 0xdfff then
          some (Char.ofNat (0x10000 + (high - 0xd800) * 0x400 + (low - 0xdc00)), rest)
        else some ('\uFFFD', cs)
      | none => some ('\uFFFD', cs)
    | cs => some ('\uFFFD', cs)
  else if 0xdc00 ≤ high ∧ high ≤ 0xdfff then some ('\uFFFD', cs)
  else some (Char.ofNat high, cs)

/-- One character of a string, the escape mark already taken off. -/
def readEscape : List Char → Option (Char × List Char)
  | [] => none
  | c :: cs =>
    if c = '"' ∨ c = '\\' ∨ c = '/' then some (c, cs)
    else if c = 'b' then some ('\x08', cs)
    else if c = 'f' then some ('\x0c', cs)
    else if c = 'n' then some ('\n', cs)
    else if c = 'r' then some ('\r', cs)
    else if c = 't' then some ('\t', cs)
    else if c = 'u' then readEscapedUnit cs
    else none

/-- The rest of a string whose opening quote is taken off. The text read so far is `done`, last
character first. -/
def readString (fuel : Nat) (done : List Char) (cs : List Char) : Option (String × List Char) :=
  match fuel, cs with
  | 0, _ => none
  | _, [] => none
  | fuel + 1, c :: cs =>
    if c = '"' then some (String.ofList done.reverse, cs)
    else if c = '\\' then
      match readEscape cs with
      | some (c, cs) => readString fuel (c :: done) cs
      | none => none
    else if c.toNat < 0x20 then none
    else readString fuel (c :: done) cs

/-- The integer part: a zero alone, or digits that do not begin with one. -/
def readWhole : List Char → Option (List Nat × List Char)
  | '0' :: cs => some ([0], cs)
  | cs => match spanDigits cs with
    | ([], _) => none
    | r => some r

/-- A fraction counts only if a digit follows the point. -/
def readFraction (cs : List Char) : Option (List Nat × List Char) :=
  match cs with
  | '.' :: rest => match spanDigits rest with
    | ([], _) => none
    | r => some r
  | _ => none

/-- An exponent counts only if a digit follows its mark and sign. -/
def readExponent (cs : List Char) : Option (Int × List Char) :=
  match cs with
  | c :: rest =>
    if c = 'e' ∨ c = 'E' then
      let (negative, rest) := takeSign rest
      match spanDigits rest with
      | ([], _) => none
      | (ds, rest) => some (signed negative (ofDigits ds), rest)
    else none
  | [] => none

/-- Reads a number without its sign. An integer may have no more than `maxDigits` digits. -/
def readNumber (negative : Bool) (cs : List Char) : Option (Json × List Char) := do
  let (whole, rest) ← readWhole cs
  let fraction := readFraction rest
  let afterFraction := (fraction.map (·.2)).getD rest
  let exponent := readExponent afterFraction
  if fraction.isNone && exponent.isNone then
    if whole.length > maxDigits then none
    else some (int (signed negative (ofDigits whole)), rest)
  else
    let places := (fraction.map (·.1)).getD []
    some (real (ofScientific negative (whole ++ places) places.length
      ((exponent.map (·.1)).getD 0)), (exponent.map (·.2)).getD afterFraction)

/-- The kinds of value that hold others. -/
inductive Container
  | array
  | object
  deriving DecidableEq

def Container.name : Container → String
  | array => "array"
  | object => "object"

/-- Why a text cannot be read. What stands first in the text decides. -/
inductive ReadError
  | malformed
  /-- One container too many is open. -/
  | tooDeep (kind : Container)
  deriving DecidableEq

/-- So many containers may be open at a time. -/
def maxDepth : Nat := 975

def orMalformed {α : Type} : Option α → Except ReadError α
  | some a => .ok a
  | none => .error .malformed

mutual

/-- Reads the value at the start of the text, in which `depth` more containers may be opened.
Besides the standard forms there are `NaN` and the infinities. -/
def readValue (fuel depth : Nat) (cs : List Char) : Except ReadError (Json × List Char) :=
  match fuel, cs with
  | 0, _ => .error .malformed
  | _, [] => .error .malformed
  | fuel + 1, c :: rest =>
    if c = '"' then
      (orMalformed (readString (rest.length + 1) [] rest)).map fun r => (str r.1, r.2)
    else if c = '[' then
      match depth, skipSpace rest with
      | 0, _ => .error (.tooDeep .array)
      | _, ']' :: rest => .ok (arr [], rest)
      | depth + 1, rest => (readItems fuel depth rest).map fun r => (arr r.1, r.2)
    else if c = '\x7b' then
      match depth, skipSpace rest with
      | 0, _ => .error (.tooDeep .object)
      | _, '\x7d' :: rest => .ok (obj [], rest)
      | depth + 1, rest => (readFields fuel depth rest).map fun r => (obj (ofPairs r.1), r.2)
    else orMalformed (
      if c = 'n' then (expect "ull".toList rest).map (null, ·)
      else if c = 't' then (expect "rue".toList rest).map (bool true, ·)
      else if c = 'f' then (expect "alse".toList rest).map (bool false, ·)
      else if c = 'N' then (expect "aN".toList rest).map (real .nan, ·)
      else if c = 'I' then (expect "nfinity".toList rest).map (real (.infinity false), ·)
      else if c = '-' then
        match rest with
        | 'I' :: rest => (expect "nfinity".toList rest).map (real (.infinity true), ·)
        | rest => readNumber true rest
      else readNumber false (c :: rest))

/-- Reads the items of an array from the first one to the closing bracket. -/
def readItems (fuel depth : Nat) (cs : List Char) : Except ReadError (List Json × List Char) :=
  match fuel with
  | 0 => .error .malformed
  | fuel + 1 =>
    match readValue fuel depth cs with
    | .error e => .error e
    | .ok (v, rest) =>
      match skipSpace rest with
      | ']' :: rest => .ok ([v], rest)
      | ',' :: rest => (readItems fuel depth (skipSpace rest)).map fun r => (v :: r.1, r.2)
      | _ => .error .malformed

/-- Reads the fields of an object from the first one to the closing brace. -/
def readFields (fuel depth : Nat) (cs : List Char) :
    Except ReadError (List (String × Json) × List Char) :=
  match fuel, cs with
  | 0, _ => .error .malformed
  | fuel + 1, '"' :: rest =>
    match readString (rest.length + 1) [] rest with
    | none => .error .malformed
    | some (key, rest) =>
      match skipSpace rest with
      | ':' :: rest =>
        match readValue fuel depth (skipSpace rest) with
        | .error e => .error e
        | .ok (v, rest) =>
          match skipSpace rest with
          | '\x7d' :: rest => .ok ([(key, v)], rest)
          | ',' :: rest =>
            (readFields fuel depth (skipSpace rest)).map fun r => ((key, v) :: r.1, r.2)
          | _ => .error .malformed
      | _ => .error .malformed
  | _, _ => .error .malformed

end

/-- Reads a text that holds one value and white space around it. Every call takes off a character,
so the fuel does not run out. -/
def parse (cs : List Char) : Except ReadError Json :=
  match readValue (2 * cs.length + 2) maxDepth (skipSpace cs) with
  | .ok (v, rest) => if (skipSpace rest).isEmpty then .ok v else .error .malformed
  | .error e => .error e

end ChainHistory.Json
