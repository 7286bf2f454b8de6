import ChainHistory.DomainName.Table.Joining
import ChainHistory.DomainName.Table.Mark
import ChainHistory.DomainName.Table.Script
import ChainHistory.DomainName.Table.Valid

namespace ChainHistory.DomainName

open Text

/-- Whether the direction of a character is not known. -/
def isUndirected (c : Char) : Bool := undirectedRanges.contains c.toNat

/-- Whether a character may stand anywhere in a label. -/
def isValid (c : Char) : Bool :=
  isUndirected c ||
  validRanges.contains c.toNat ||
    validAlternate.any fun r => r.1 ≤ c.toNat && c.toNat ≤ r.2 && (c.toNat - r.1) % 2 == 0

/-- The last part of the entry of a table that a character belongs to. -/
def lookupRange (runs : List (Nat × Nat × Nat)) (c : Char) : Option Nat :=
  (runs.find? fun r => r.1 ≤ c.toNat && c.toNat ≤ r.2.1).map (·.2.2)

def isNonspacing (c : Char) : Bool := (lookupRange nonspacingMarks c).isSome

def isMark (c : Char) : Bool := isNonspacing c || (lookupRange spacingMarks c).isSome

/-- Marks of the same class keep their order; zero is the class of what is no such mark. -/
def combiningClass (c : Char) : Nat :=
  (lookupRange nonspacingMarks c <|> lookupRange spacingMarks c).getD 0

/-- The mark that takes the vowel from a consonant. -/
def isVirama (c : Char) : Bool := combiningClass c = 9

/-- Letters join past these. -/
def isTransparent (c : Char) : Bool := (isNonspacing c && c.toNat ≠ 0x1171e) || c.toNat = 0x1e94b

def joinsAfter (c : Char) : Bool := dualJoining.contains c.toNat || leftJoining.contains c.toNat

def joinsBefore (c : Char) : Bool := dualJoining.contains c.toNat || rightJoining.contains c.toNat

def isGreek (c : Char) : Bool := greekRanges.contains c.toNat

def isHebrew (c : Char) : Bool := hebrewRanges.contains c.toNat

def isJapanese (c : Char) : Bool := japaneseRanges.contains c.toNat

end ChainHistory.DomainName
