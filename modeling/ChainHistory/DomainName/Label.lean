import ChainHistory.DomainName.Composition
import ChainHistory.DomainName.Direction
import ChainHistory.DomainName.Punycode
import ChainHistory.Text.Case
import ChainHistory.Text.Split

namespace ChainHistory.DomainName

open Text

def isJoiner (c : Char) : Bool := c = '\u200c' || c = '\u200d'

/-- A joiner stands behind a virama; the one that keeps letters apart may also stand between letters
that would join. What is before it is read backwards. -/
def joinerFits (before : List Char) (c : Char) (after : List Char) : Bool :=
  (before.head?.map isVirama).getD false ||
    (c = '\u200c' &&
      ((before.dropWhile isTransparent).head?.map joinsAfter).getD false &&
      ((after.dropWhile isTransparent).head?.map joinsBefore).getD false)

/-- The middle dot, signs of Greek and Hebrew numerals, the Katakana dot, and the two sets of Arabic
digits. -/
def needsContext (c : Char) : Bool :=
  c ∈ ['\u00b7', '\u0375', '\u05f3', '\u05f4', '\u30fb'] ||
    ('\u0660' ≤ c && c ≤ '\u0669') || ('\u06f0' ≤ c && c ≤ '\u06f9')

/-- A character fits between what is before it, read backwards, and what follows it. -/
def contextFits (before : List Char) (c : Char) (after : List Char) : Bool :=
  let label := before ++ after
  if c = '\u00b7' then before.head? = some 'l' && after.head? = some 'l'
  else if c = '\u0375' then (after.head?.map isGreek).getD false
  else if c = '\u05f3' || c = '\u05f4' then (before.head?.map isHebrew).getD false
  else if c = '\u30fb' then label.any fun d => d ≠ c && isJapanese d
  else if '\u0660' ≤ c && c ≤ '\u0669' then !label.any fun d => '\u06f0' ≤ d && d ≤ '\u06f9'
  else !label.any fun d => '\u0660' ≤ d && d ≤ '\u0669'

/-- Every character may stand where it stands. -/
def checkCharacters (before : List Char) : List Char → Except NameError Unit
  | [] => .ok ()
  | c :: after =>
    let spot : Spot := ⟨c, before.length + 1, before.reverse ++ c :: after⟩
    if isValid c then checkCharacters (c :: before) after
    else if isJoiner c then
      if joinerFits before c after then checkCharacters (c :: before) after
      else .error (.joiner spot)
    else if needsContext c then
      if contextFits before c after then checkCharacters (c :: before) after
      else .error (.context spot)
    else .error (.character spot)

def checkLabel (label : List Char) : Except NameError Unit := do
  if label.isEmpty then throw .emptyLabel
  if !isComposed label then throw .notComposed
  if (label.drop 2).take 2 = ['-', '-'] then throw .innerHyphens
  if label.head? = some '-' || label.getLast? = some '-' then throw .outerHyphen
  if (label.head?.map isMark).getD false then throw .opensWithMark
  checkCharacters [] label
  checkDirection label

/-- What an encoded label begins with. -/
def encodedMark : List Char := "xn--".toList

/-- Reads a label in ASCII, which may be an encoded one. -/
def readLabel (label : List Char) : Except NameError (List Char) := do
  let label := label.map Char.toLower
  if encodedMark.isPrefixOf label then
    let encoded := label.drop encodedMark.length
    if encoded.isEmpty then throw .emptyEncoding
    if encoded.getLast? = some '-' then throw .hyphenEncoding
    match Punycode.decode? encoded with
    | none => throw .badEncoding
    | some label =>
      checkLabel label
      return label
  else
    checkLabel label
    return label

/-- The most characters of a label in ASCII. -/
def maxLabel : Nat := 63

/-- Writes a label in ASCII. One that is so already is only checked. -/
def writeLabel (label : List Char) : Except NameError (List Char) := do
  let written ← if label.all isAscii then do
      let _ ← readLabel label
      pure label
    else do
      checkLabel label
      pure (encodedMark ++ Punycode.encode label)
  if maxLabel < written.length then throw .labelTooLong
  return written

/-- The most characters of a name; a dot at its end does not count. -/
def maxName : Nat := 253

/-- Full stops of East Asian scripts are dots too. -/
def isDot (c : Char) : Bool := c ∈ ['.', '\u3002', '\uff0e', '\uff61']

/-- The labels of a name that no dot ends, and whether one does. -/
def labels (name : List Char) : List (List Char) × Bool :=
  let parts := splitOn '.' (name.map fun c => if isDot c then '.' else c)
  if parts.getLast? = some [] then (parts.dropLast, true) else (parts, false)

/-- Applies a function to every label. -/
def mapLabels (f : List Char → Except NameError (List Char)) (name : List Char) :
    Except NameError (List Char) := do
  if maxName + 1 < name.length then throw .nameTooLong
  let (parts, dotted) := labels name
  let parts ← parts.mapM f
  return joinWith '.' (parts ++ if dotted then [[]] else [])

/-- A name in ASCII. -/
def encode (name : List Char) : Except NameError (List Char) := do
  let written ← mapLabels writeLabel name
  if maxName + (if (labels name).2 then 1 else 0) < written.length then throw .nameTooLong
  return written

/-- The name that a name in ASCII stands for. -/
def decode (name : List Char) : Except NameError (List Char) := mapLabels readLabel name

end ChainHistory.DomainName
