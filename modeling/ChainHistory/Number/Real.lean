import ChainHistory.Number.Binary64
import ChainHistory.Number.Numeral

namespace ChainHistory.Number

open Text

/-- Underscores may only stand between two ASCII digits, and are then left out. -/
def dropUnderscores : (previous : Option Char) → List Char → Option (List Char)
  | _, [] => some []
  | previous, c :: cs =>
    if c = '_' then
      if (previous.bind asciiDigit?).isSome && (cs.head?.bind asciiDigit?).isSome then
        dropUnderscores (some c) cs
      else none
    else (dropUnderscores (some c) cs).map (c :: ·)

/-- The number that `digits`, of which the last `places` stand after the point, and an exponent
spell. -/
def ofScientific (negative : Bool) (digits : List Nat) (places : Nat) (exponent : Int) : Binary64 :=
  Binary64.ofDecimal negative (ofDigits digits) (exponent - places)

/-- The digits at the start and what follows. -/
def spanDigits (cs : List Char) : List Nat × List Char :=
  let isDigit := fun c => (asciiDigit? c).isSome
  ((cs.takeWhile isDigit).filterMap asciiDigit?, cs.dropWhile isDigit)

/-- An exponent with its mark, or nothing at all. -/
def exponent? : List Char → Option Int
  | [] => some 0
  | e :: cs =>
    if e = 'e' ∨ e = 'E' then
      let (negative, cs) := takeSign cs
      match spanDigits cs with
      | ([], _) => none
      | (ds, rest) => if rest.isEmpty then some (signed negative (ofDigits ds)) else none
    else none

/-- Reads ASCII digits with an optional point and exponent; some digit must stand beside the
point. -/
def parseUnsigned (negative : Bool) (cs : List Char) : Option Binary64 :=
  let (whole, rest) := spanDigits cs
  let (places, rest) := match rest with
    | '.' :: rest => spanDigits rest
    | rest => ([], rest)
  if whole.isEmpty && places.isEmpty then none
  else (exponent? rest).map (ofScientific negative (whole ++ places) places.length)

/-- A digit of any script becomes the ASCII one. -/
def toAsciiDigit (c : Char) : Char :=
  match digitValue? c with
  | some d => Char.ofNat (48 + d)
  | none => c

/-- Reads a number in digits of any script with white space around it, an infinity or a NaN. -/
def parseReal (text : String) : Option Binary64 := do
  let cs ← dropUnderscores none ((trim isWhite text.toList).map toAsciiDigit)
  let (negative, cs) := takeSign cs
  let word := String.ofList (cs.map Char.toLower)
  if word = "inf" || word = "infinity" then some (.infinity negative)
  else if word = "nan" then some .nan
  else parseUnsigned negative cs

end ChainHistory.Number
