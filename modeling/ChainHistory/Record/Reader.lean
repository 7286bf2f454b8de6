import ChainHistory.Record.Basic
import ChainHistory.Record.Checked
import ChainHistory.Number.Real

namespace ChainHistory.Record

open Text Number

/-- Why a document is no record. -/
inductive DocumentFault
  /-- The document has no fields at all, being of another kind. -/
  | notMapping (kind : String)
  /-- There are no documents, the whole being of another kind. -/
  | notIterable (kind : String)
  | invalid (faults : List FieldFault)
  deriving DecidableEq

def DocumentFault.message : DocumentFault → String
  | .notMapping kind => s!"'{kind}' object is not a mapping"
  | .notIterable kind => s!"'{kind}' object is not iterable"
  | .invalid faults =>
    s!"{faults.length} validation error" ++ (if faults.length = 1 then "" else "s") ++
      " for TransactionRecord"

/-- Whether a plain numeral can begin with this character and mean more than zero. -/
def opensNumeral (c : Char) : Bool := c = '-' || (c ≠ '0' && (asciiDigit? c).isSome)

/-- Splits off a plain numeral: a minus if there is one, then one zero or digits that begin with no
zero. -/
def takePlain (cs : List Char) : Option (List Char × List Char) :=
  let (sign, cs) := match cs with
    | '-' :: cs => (['-'], cs)
    | cs => ([], cs)
  match cs with
  | [] => none
  | c :: rest =>
    let isDigit := fun d => (asciiDigit? d).isSome
    if c = '0' then some (sign ++ [c], rest)
    else if isDigit c then some (sign ++ c :: rest.takeWhile isDigit, rest.dropWhile isDigit)
    else none

def plainValue (numeral : List Char) : Int :=
  signed (numeral.head? = some '-') (ofDigits (numeral.filterMap asciiDigit?))

/-- Drops zeros and underscores behind a zero that stood first. A point, or the end, keeps the
character before it. -/
def dropZerosAfter (last : Char) : List Char → Option (List Char)
  | [] => some [last]
  | c :: cs =>
    if c = '0' ∨ c = '_' then dropZerosAfter c cs
    else if c = '.' then some (last :: c :: cs)
    else if opensNumeral c then some (c :: cs)
    else none

def dropZeros : List Char → Option (List Char)
  | [] => none
  | c :: cs =>
    if c = '0' then dropZerosAfter c cs else if opensNumeral c then some (c :: cs) else none

/-- Drops a fraction of zeros at the end. -/
def dropFraction (cs : List Char) : List Char :=
  match cut '.' cs with
  | some (whole, zeros) => if !zeros.isEmpty && zeros.all (· = '0') then whole else cs
  | none => cs

/-- Drops underscores if each stands alone and inside. -/
def dropUnderscores (cs : List Char) : List Char :=
  let parts := splitOn '_' cs
  if parts.any (·.isEmpty) then cs else parts.flatten

/-- The plain form of an integer with white space around it, a plus, zeros in front, underscores
between the digits or a fraction of zeros. A minus may also follow the zeros in front. -/
def plainForm (cs : List Char) : Option (List Char) :=
  let form := match trim isWhite cs with
    | '+' :: '-' :: _ => none
    | '+' :: cs => dropZeros cs
    | '-' :: cs => (dropZeros cs).map ('-' :: ·)
    | cs => dropZeros cs
  form.map fun cs => dropUnderscores (dropFraction cs)

/-- Reads an integer in ASCII digits. Only a plain numeral at the very start is refused for its
length; in any other form it cannot be read then. -/
def readInteger (text : String) : Except FaultKind Int :=
  let whole? := fun cs => match takePlain cs with
    | some (numeral, []) => if numeral.length ≤ maxDigits then some (plainValue numeral) else none
    | _ => none
  let tooLong := match takePlain text.toList with
    | some (numeral, _) => decide (numeral.length > maxDigits)
    | none => false
  if tooLong then .error .tooLarge
  else match whole? text.toList <|> (plainForm text.toList).bind whole? with
    | some n => .ok n
    | none => .error .unreadable

/-- Integers strictly between these bounds are taken from a number with a fraction. -/
def realBound : Nat := Nat.pow 2 63

def integerOf : Json → Except FaultKind Int
  | .int n => .ok n
  | .bool b => .ok (if b then 1 else 0)
  | .real x =>
    match x.toWhole with
    | .notFinite => .error .notFinite
    | .fractional => .error .fractional
    | .whole n => if n.natAbs < realBound then .ok n else .error .tooLarge
  | .str s => readInteger s
  | _ => .error .notInteger

def textOf : Json → Except FaultKind String
  | .str s => .ok s
  | _ => .error .notText

def statusOf (v : Json) : Except FaultKind Status :=
  match v with
  | .str s => match Status.ofName? s with
    | some x => .ok x
    | none => .error .notListed
  | _ => .error .notListed

def directionOf (v : Json) : Except FaultKind Direction :=
  match v with
  | .str s => match Direction.ofName? s with
    | some x => .ok x
    | none => .error .notListed
  | _ => .error .notListed

/-- Null stands for an absent value. -/
def orNull {α : Type} (read : Json → Except FaultKind α) : Json → Except FaultKind (Option α)
  | .null => .ok none
  | v => (read v).map some

def atField {α : Type} (field : String) (r : Except FaultKind α) : Checked α :=
  match r with
  | .ok a => .valid a
  | .error kind => .invalid [⟨field, none, kind⟩]

/-- A field that must be there. -/
def required {α : Type} (fields : List (String × Json)) (field : String)
    (read : Json → Except FaultKind α) : Checked α :=
  match fields.lookup field with
  | some v => atField field (read v)
  | none => .invalid [⟨field, none, .missing⟩]

/-- A field that has a default. -/
def defaulted {α : Type} (fields : List (String × Json)) (field : String) (default : α)
    (read : Json → Except FaultKind α) : Checked α :=
  match fields.lookup field with
  | some v => atField field (read v)
  | none => .valid default

def textItem (field : String) (index : Nat) (v : Json) : Checked String :=
  match textOf v with
  | .ok s => .valid s
  | .error kind => .invalid [⟨field, some index, kind⟩]

/-- A list of texts, empty if it is absent. -/
def texts (fields : List (String × Json)) (field : String) : Checked (List String) :=
  match fields.lookup field with
  | none => .valid []
  | some (.arr items) => .sequence (items.mapIdx fun i v => textItem field i v)
  | some _ => .invalid [⟨field, none, .notList⟩]

/-- Reads the twelve fields in their order and keeps every fault. The coin is the document's own,
or `coinId` if it names none. -/
def ofFields (coinId : Int) (fs : List (String × Json)) : Checked Record :=
  (Checked.valid Record.mk)
    |>.apply (required fs "id" textOf)
    |>.apply (defaulted fs "coin" coinId integerOf)
    |>.apply (required fs "timestamp" integerOf)
    |>.apply (texts fs "senders")
    |>.apply (texts fs "receivers")
    |>.apply (defaulted fs "memo" none (orNull textOf))
    |>.apply (defaulted fs "token_id" none (orNull textOf))
    |>.apply (defaulted fs "block" none (orNull integerOf))
    |>.apply (defaulted fs "fee" none (orNull textOf))
    |>.apply (defaulted fs "status" .completed statusOf)
    |>.apply (defaulted fs "type" "transfer" textOf)
    |>.apply (defaulted fs "direction" none (orNull directionOf))

def ofDocument (coinId : Int) : Json → Except DocumentFault Record
  | .obj fs =>
    match ofFields coinId fs with
    | .valid r => .ok r
    | .invalid faults => .error (.invalid faults)
  | v => .error (.notMapping v.kindName)

/-- Reads all documents; the first bad one decides what is wrong. -/
def ofDocuments (coinId : Int) (docs : List Json) : Except DocumentFault (List Record) :=
  docs.mapM (ofDocument coinId)

/-- The documents that a value is made of: an array's items, an object's keys, a text's
characters. -/
def documentsOf : Json → Except DocumentFault (List Json)
  | .arr items => .ok items
  | .obj fs => .ok (fs.map fun f => .str f.1)
  | .str s => .ok (s.toList.map fun c => .str (String.singleton c))
  | v => .error (.notIterable v.kindName)

def ofJson (coinId : Int) (v : Json) : Except DocumentFault (List Record) :=
  (documentsOf v).bind (ofDocuments coinId)

end ChainHistory.Record
