import ChainHistory.Text.Table.Lower
import ChainHistory.Text.Table.Upper
import ChainHistory.Text.Table.Casing

namespace ChainHistory.Text

def isCaseIgnorable (c : Char) : Bool := caseIgnorableRanges.contains c.toNat

def isCased (c : Char) : Bool := casedRanges.contains c.toNat

/-- Whether the first character that counts is a letter with case. -/
def startsCased (cs : List Char) : Bool :=
  match cs.dropWhile isCaseIgnorable with
  | [] => false
  | c :: _ => isCased c

/-- The lower case of a character by itself. -/
def lowerChar (c : Char) : List Char :=
  if c = 'İ' then ['i', '\u0307'] else [mapByRuns lowerRuns c]

/-- A capital sigma that ends a word becomes the final form; `before` is read backwards. -/
def lowerFrom (before : List Char) : List Char → List Char
  | [] => []
  | c :: cs =>
    (if c = 'Σ' then
      (if startsCased before && !startsCased cs then ['ς'] else ['σ'])
    else lowerChar c) ++ lowerFrom (c :: before) cs

def lower (s : String) : String :=
  String.ofList (lowerFrom [] s.toList)

def upperChar (c : Char) : List Char :=
  match upperExpansions.lookup c.toNat with
  | some ns => ns.map Char.ofNat
  | none => [mapByRuns upperRuns c]

def upper (s : String) : String :=
  String.ofList (s.toList.flatMap upperChar)

end ChainHistory.Text
