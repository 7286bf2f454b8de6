namespace ChainHistory.Text

/-- The characters with the property White_Space. -/
def isWhite (c : Char) : Bool :=
  let n := c.toNat
  (0x09 ≤ n && n ≤ 0x0d) || n == 0x20 || n == 0x85 || n == 0xa0 || n == 0x1680 ||
    (0x2000 ≤ n && n ≤ 0x200a) || n == 0x2028 || n == 0x2029 || n == 0x202f || n == 0x205f ||
    n == 0x3000

/-- White space and the four information separators. -/
def isBlank (c : Char) : Bool :=
  isWhite c || (0x1c ≤ c.toNat && c.toNat ≤ 0x1f)

def trimEnd (p : Char → Bool) (cs : List Char) : List Char :=
  (cs.reverse.dropWhile p).reverse

/-- Drops the characters of `p` at both ends and keeps those inside. -/
def trim (p : Char → Bool) (cs : List Char) : List Char :=
  trimEnd p (cs.dropWhile p)

def strip (s : String) : String :=
  String.ofList (trim isBlank s.toList)

/-- Holds of the empty text too. -/
def isBlankText (s : String) : Bool :=
  s.toList.all isBlank

/-- A text that is absent or blank says nothing; any other is taken without its outer blanks. -/
def clean (s : Option String) : Option String :=
  match s with
  | none => none
  | some s => if isBlankText s then none else some (strip s)

/-- An empty text counts as absent. -/
def nonEmpty? (s : Option String) : Option String :=
  s.filter (· ≠ "")

end ChainHistory.Text
