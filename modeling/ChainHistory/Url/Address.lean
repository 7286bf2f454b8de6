import ChainHistory.Text.Digit
import ChainHistory.Text.Split

namespace ChainHistory.Url

open Text

/-- A number from 0 to 255 without zeros in front. -/
def isOctet (cs : List Char) : Bool :=
  cs.length ≤ 3 && !cs.isEmpty && cs.all (fun c => (asciiDigit? c).isSome) &&
    (cs = ['0'] || cs.head? ≠ some '0') && ofDigits (cs.filterMap asciiDigit?) ≤ 255

/-- Four numbers with points between them. -/
def isAddress4 (cs : List Char) : Bool :=
  let parts := splitOn '.' cs
  parts.length = 4 && parts.all isOctet

/-- Whether a host is meant as four numbers: what stands between two of them may be any character,
even a digit. A run of digits can hold half as many numbers as it has digits, rounded up. -/
def resemblesAddress4 (cs : List Char) : Bool :=
  let runs := splitOn '.' (cs.map fun c => if (asciiDigit? c).isSome then c else '.')
  runs.length ≤ 4 && runs.all (!·.isEmpty) && 4 ≤ runs.foldl (fun n r => n + (r.length + 1) / 2) 0

def isHexGroup (cs : List Char) : Bool :=
  !cs.isEmpty && cs.length ≤ 4 && cs.all fun c => (hexValue? c).isSome

/-- One side of the place where zeros are left out. Nothing but an empty part may stand at an end
of the address. -/
def isGroups (side : List (List Char)) (atEnd : List Char) : Bool :=
  if atEnd.isEmpty then side.length = 1 else side.all isHexGroup

/-- Eight groups between colons, of which one run of zeros may be left out. The last two may be
written as four numbers. -/
def isGroups6 (cs : List Char) : Bool :=
  let parts := splitOn ':' cs
  let last := parts.getLast?.getD []
  let mixed := '.' ∈ last
  let groups := if mixed then parts.dropLast ++ [['0'], ['0']] else parts
  let inner := (groups.drop 1).dropLast
  2 < parts.length && (!mixed || isAddress4 last) &&
    match inner.takeWhile (!·.isEmpty), inner.dropWhile (!·.isEmpty) with
    | _, [] => groups.length = 8 && groups.all isHexGroup
    | before, _ :: after =>
      let front := groups.take (before.length + 1)
      let back := groups.drop (before.length + 2)
      let present := fun side : List (List Char) => (side.filter (!·.isEmpty)).length
      after.all (!·.isEmpty) &&
        isGroups front (front.head?.getD []) && isGroups back (back.getLast?.getD []) &&
        present front + present back ≤ 7

/-- An address of eight groups, which a percent sign and the name of a zone may follow. -/
def isAddress6 (cs : List Char) : Bool :=
  match cut '%' cs with
  | none => isGroups6 cs
  | some (address, zone) => !zone.isEmpty && '%' ∉ zone && isGroups6 address

end ChainHistory.Url
