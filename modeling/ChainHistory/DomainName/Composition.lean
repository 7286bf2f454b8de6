import ChainHistory.DomainName.Character
import ChainHistory.DomainName.Table.Composition

namespace ChainHistory.DomainName

/-- A character in parts that have none themselves; no character has parts at more than `depth`
levels. -/
def decompose (depth : Nat) (c : Char) : List Char :=
  match depth, compositions.find? (·.1 = c.toNat) with
  | depth + 1, some (_, a, b) => decompose depth (Char.ofNat a) ++ [Char.ofNat b]
  | _, _ => [c]

/-- Puts a character before a sorted text, behind the marks of lower classes if it is a mark. -/
def insertMark (c : Char) : List Char → List Char
  | [] => [c]
  | d :: ds =>
    if 0 < combiningClass d && combiningClass d < combiningClass c then d :: insertMark c ds
    else c :: d :: ds

/-- Sorts marks that follow each other by class. -/
def sortMarks : List Char → List Char
  | [] => []
  | c :: cs => insertMark c (sortMarks cs)

/-- Korean syllables are composed of an initial, a vowel and perhaps a final. -/
def composeSyllable? (a b : Nat) : Option Nat :=
  if 0x1100 ≤ a ∧ a < 0x1113 ∧ 0x1161 ≤ b ∧ b < 0x1176 then
    some (0xac00 + ((a - 0x1100) * 21 + (b - 0x1161)) * 28)
  else if 0xac00 ≤ a ∧ a < 0xd7a4 ∧ (a - 0xac00) % 28 = 0 ∧ 0x11a7 < b ∧ b < 0x11c3 then
    some (a + (b - 0x11a7))
  else none

def compose? (a b : Char) : Option Char :=
  let listed := compositions.find? fun r => r.2.1 = a.toNat && r.2.2 = b.toNat
  (listed.map (·.1) <|> composeSyllable? a.toNat b.toNat).map Char.ofNat

/-- Composes what follows `start` with it. The marks between them are `between`, last one first; a
mark of the same or a higher class comes in the way of another. -/
def composeFrom (start : Char) (between : List Char) : List Char → List Char
  | [] => start :: between.reverse
  | c :: cs =>
    let reaches := match between with
      | [] => true
      | d :: _ => combiningClass d < combiningClass c
    match if reaches then compose? start c else none with
    | some composed => composeFrom composed between cs
    | none =>
      if combiningClass c = 0 then start :: between.reverse ++ composeFrom c [] cs
      else composeFrom start (c :: between) cs

/-- Composes all that follows the first character that is no mark. -/
def compose : List Char → List Char
  | [] => []
  | c :: cs => if combiningClass c = 0 then composeFrom c [] cs else c :: compose cs

/-- Whether nothing is left to compose and all marks are sorted. -/
def isComposed (cs : List Char) : Bool :=
  !(cs.any fun c => unstableRanges.contains c.toNat) &&
    compose (sortMarks (cs.flatMap (decompose 4))) = cs

end ChainHistory.DomainName
