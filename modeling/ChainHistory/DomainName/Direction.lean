import ChainHistory.DomainName.Basic
import ChainHistory.DomainName.Character
import ChainHistory.DomainName.Table.Direction

namespace ChainHistory.DomainName

open Text

/-- In which direction a character is written. -/
inductive Direction
  | left
  | right
  | arabic
  | arabicNumber
  | europeanNumber
  | neutral
  /-- A mark goes with what is before it. -/
  | mark
  deriving DecidableEq

/-- Marks that have a direction of their own all the same. -/
def directedMarks : List Nat := [0x0cbf, 0x0cc6, 0x11a07, 0x11a08, 0x11c3f]

def Direction.ofChar (c : Char) : Direction :=
  let n := c.toNat
  if rightToLeft.contains n then .right
  else if arabicLetters.contains n then .arabic
  else if arabicNumbers.contains n then .arabicNumber
  else if europeanNumbers.contains n then .europeanNumber
  else if neutrals.contains n then .neutral
  else if isNonspacing c && n ∉ directedMarks then .mark
  else .left

def Direction.isRightward (d : Direction) : Bool := d = .right || d = .arabic

def Direction.isNumber (d : Direction) : Bool := d = .arabicNumber || d = .europeanNumber

/-- Whether the last of the characters that are no marks has a direction out of `good`. -/
def endsIn (good : Direction → Bool) (ds : List Direction) : Bool :=
  ((ds.reverse.dropWhile (· = .mark)).head?.map good).getD false

/-- No character is written from left to right, and all digits are of one kind. -/
def checkRightward (number : Option Direction) (position : Nat) :
    List Direction → Except NameError Unit
  | [] => .ok ()
  | d :: ds =>
    if d = .left then .error (.againstRight position)
    else if d.isNumber then
      if number.isSome && number ≠ some d then .error .mixedDigits
      else checkRightward (some d) (position + 1) ds
    else checkRightward number (position + 1) ds

/-- No character belongs to a text from right to left. -/
def checkLeftward (position : Nat) : List Direction → Except NameError Unit
  | [] => .ok ()
  | d :: ds =>
    if d.isRightward || d = .arabicNumber then .error (.againstLeft position)
    else checkLeftward (position + 1) ds

/-- The direction of every character is known. -/
def checkKnown (before : List Char) : List Char → Except NameError Unit
  | [] => .ok ()
  | c :: cs =>
    if isUndirected c then
      .error (.unknownDirection ⟨c, before.length + 1, before.reverse ++ c :: cs⟩)
    else checkKnown (c :: before) cs

/-- A label with a character written from right to left is written so as a whole, or else it begins
from left to right and has no such character; it ends in a letter or a digit. -/
def checkDirection (label : List Char) : Except NameError Unit := do
  checkKnown [] label
  let ds := label.map Direction.ofChar
  let isEndOf := fun letter d => letter d || d.isNumber
  if ds.any fun d => d.isRightward || d = .arabicNumber then
    match ds.head? with
    | some .left =>
      checkLeftward 1 ds
      if endsIn (fun d => d = .left || d = .europeanNumber) ds then pure ()
      else throw .undirectedEnd
    | some d =>
      if d.isRightward then
        checkRightward none 1 ds
        if endsIn (isEndOf Direction.isRightward) ds then pure () else throw .undirectedEnd
      else throw (.undirected label)
    | none => pure ()

end ChainHistory.DomainName
