import ChainHistory.Text.Ascii

namespace ChainHistory.DomainName.Punycode

open Text

/-! A text as its ASCII characters followed by numbers, each of which tells what to insert next and
where. A number is written in digits of base 36, lowest first, and its last digit is the first one
below the threshold of its place. -/

def digit (n : Nat) : Char := if n < 26 then Char.ofNat (97 + n) else Char.ofNat (22 + n)

def digitValue? (c : Char) : Option Nat :=
  if 'a' ≤ c ∧ c ≤ 'z' then some (c.toNat - 97)
  else if 'A' ≤ c ∧ c ≤ 'Z' then some (c.toNat - 65)
  else (asciiDigit? c).map (· + 26)

/-- A digit of a place below its threshold ends the number. -/
def threshold (place bias : Nat) : Nat := min 26 (max 1 (36 * (place + 1) - bias))

/-- Divides a difference until it is small, and counts 36 for each division. -/
def scale (difference : Nat) : Nat × Nat :=
  if 455 < difference then
    let (small, steps) := scale (difference / 35)
    (small, steps + 36)
  else (difference, 0)
termination_by difference

/-- The bias after a difference, when there are `count` characters. -/
def adapt (difference : Nat) (first : Bool) (count : Nat) : Nat :=
  let halved := if first then difference / 700 else difference / 2
  let (small, steps) := scale (halved + halved / count)
  steps + 36 * small / (small + 38)

def writeNumber (bias place n : Nat) : List Char :=
  let t := threshold place bias
  if n < t then [digit n]
  else digit (t + (n - t) % (36 - t)) :: writeNumber bias (place + 1) ((n - t) / (36 - t))
termination_by n
decreasing_by
  have ht : 1 ≤ threshold place bias := by unfold threshold; omega
  have := Nat.div_le_self (n - threshold place bias) (36 - threshold place bias)
  omega

/-- What was written so far: the digits, the difference that is not yet written, the bias for it,
how many characters were dealt with, and whether the next number is the first. -/
structure Writing where
  digits : List Char := []
  difference : Nat := 0
  bias : Nat := 72
  count : Nat
  first : Bool := true

/-- Passes by a character, or writes where it is inserted if its number is `n`. -/
def Writing.visit (n : Nat) (w : Writing) (c : Char) : Writing :=
  if c.toNat < n then { w with difference := w.difference + 1 }
  else if c.toNat = n then
    { digits := w.digits ++ writeNumber w.bias 0 w.difference
      difference := 0
      bias := adapt w.difference w.first (w.count + 1)
      count := w.count + 1
      first := false }
  else w

/-- Writes the characters with the given numbers, in increasing order from `next` on. -/
def Writing.visitAll (cs : List Char) (next : Nat) : List Nat → Writing → Writing
  | [], w => w
  | n :: ns, w =>
    let w := { w with difference := w.difference + (n - next) * (w.count + 1) }
    let w := cs.foldl (visit n) w
    visitAll cs (n + 1) ns { w with difference := w.difference + 1 }

def encode (cs : List Char) : List Char :=
  let basic := cs.filter isAscii
  let others := (((cs.filter (!isAscii ·)).map Char.toNat).mergeSort (· ≤ ·)).eraseReps
  let separator := if basic.isEmpty then [] else ['-']
  basic ++ separator ++ (Writing.visitAll cs 0x80 others { count := basic.length }).digits

/-- Reads a number whose digits weigh `weight` from the next place on. -/
def readNumber (bias place weight : Nat) : List Char → Option (Nat × List Char)
  | [] => none
  | c :: cs =>
    match digitValue? c with
    | none => none
    | some d =>
      let t := threshold place bias
      if d < t then some (d * weight, cs)
      else (readNumber bias (place + 1) (weight * (36 - t)) cs).map fun r => (d * weight + r.1, r.2)

/-- Inserts what the numbers tell, from character `code` and position `position` on. -/
def insertAll (code position bias : Nat) (first : Bool) (done cs : List Char) :
    Option (List Char) :=
  if cs.isEmpty then some done
  else match readNumber bias 0 1 cs with
    | none => none
    | some (difference, rest) =>
      let count := done.length + 1
      let code := code + (position + difference) / count
      let position := (position + difference) % count
      if ¬ code.isValidChar then none
      else
        let done := done.take position ++ Char.ofNat code :: done.drop position
        let bias := adapt difference first count
        if rest.length < cs.length then insertAll code (position + 1) bias false done rest
        else none
termination_by cs.length

/-- The text that an encoding stands for; the last hyphen ends its ASCII characters. -/
def decode? (cs : List Char) : Option (List Char) :=
  let numbers := (cs.reverse.takeWhile (· ≠ '-')).reverse
  insertAll 0x80 0 72 true (cs.take (cs.length - numbers.length - 1)) numbers

end ChainHistory.DomainName.Punycode
