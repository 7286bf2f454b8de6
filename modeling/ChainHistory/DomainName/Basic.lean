import ChainHistory.Text.Quoted

namespace ChainHistory.DomainName

open Text

/-- Where in a label a character stands, counted from one. -/
structure Spot where
  char : Char
  position : Nat
  label : List Char
  deriving DecidableEq

/-- Why a text is no label of a domain name, or no domain name. -/
inductive NameError
  | emptyLabel
  | labelTooLong
  | nameTooLong
  | notComposed
  | innerHyphens
  | outerHyphen
  | opensWithMark
  /-- A joiner that does not stand between letters that can be joined. -/
  | joiner (spot : Spot)
  /-- A character that may stand only near certain others. -/
  | context (spot : Spot)
  | character (spot : Spot)
  /-- A character whose direction is not known. -/
  | unknownDirection (spot : Spot)
  /-- The first character has no direction. -/
  | undirected (label : List Char)
  | againstRight (position : Nat)
  | againstLeft (position : Nat)
  | mixedDigits
  | undirectedEnd
  | emptyEncoding
  | hyphenEncoding
  | badEncoding
  deriving DecidableEq

namespace NameError

/-- The number of a character in at least four digits. -/
def codePoint (c : Char) : String :=
  let ds := (Nat.toDigits 16 c.toNat).map Char.toUpper
  "U+" ++ String.ofList (List.replicate (4 - ds.length) '0' ++ ds)

def shown (label : List Char) : String := quoted (String.ofList label)

/-- The name of the kind of failure. -/
def name : NameError → String
  | context _ => "InvalidCodepointContext"
  | character _ => "InvalidCodepoint"
  | unknownDirection _ | undirected _ | againstRight _ | againstLeft _ | mixedDigits
  | undirectedEnd => "IDNABidiError"
  | _ => "IDNAError"

def message : NameError → String
  | emptyLabel => "Empty Label"
  | labelTooLong => "Label too long"
  | nameTooLong => "Domain too long"
  | notComposed => "Label must be in Normalization Form C"
  | innerHyphens => "Label has disallowed hyphens in 3rd and 4th position"
  | outerHyphen => "Label must not start or end with a hyphen"
  | opensWithMark => "Label begins with an illegal combining character"
  | joiner s =>
    s!"Unknown codepoint adjacent to joiner {codePoint s.char} at position {s.position} in " ++
      shown s.label
  | context s =>
    s!"Codepoint {codePoint s.char} not allowed at position {s.position} in {shown s.label}"
  | character s =>
    s!"Codepoint {codePoint s.char} at position {s.position} of {shown s.label} not allowed"
  | unknownDirection s =>
    s!"Unknown directionality in label {shown s.label} at position {s.position}"
  | undirected label =>
    s!"First codepoint in label {shown label} must be directionality L, R or AL"
  | againstRight position =>
    s!"Invalid direction for codepoint at position {position} in a right-to-left label"
  | againstLeft position =>
    s!"Invalid direction for codepoint at position {position} in a left-to-right label"
  | mixedDigits => "Can not mix numeral types in a right-to-left label"
  | undirectedEnd => "Label ends with illegal codepoint directionality"
  | emptyEncoding => "Malformed A-label, no Punycode eligible content found"
  | hyphenEncoding => "A-label must not end with a hyphen"
  | badEncoding => "Invalid A-label"

end NameError

end ChainHistory.DomainName
