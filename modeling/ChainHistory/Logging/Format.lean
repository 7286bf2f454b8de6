import ChainHistory.Logging.Field
import ChainHistory.Text.Split
import ChainHistory.Text.Word

namespace ChainHistory.Logging

open Text

/-- The forms that a field may have in a template, in either case; long `s` is an `s`, and `i` with
or without its dot is an `i`. Not all of them can be written. -/
def forms : List Char := "diouxefgcrsa%DIOUXEFGCRSAſıİ".toList

def isFlag (c : Char) : Bool := c = '#' || c = '0' || c = '+' || c = ' ' || c = '-'

def isDigit (c : Char) : Bool := (asciiDigit? c).isSome

/-- Skips a star or digits of any script. -/
def skipAmount : List Char → List Char
  | '*' :: cs => cs
  | cs => cs.dropWhile fun c => (digitValue? c).isSome

/-- Skips a point and an amount, if there are both. -/
def skipPlaces (cs : List Char) : List Char :=
  match cs with
  | '.' :: rest => if (skipAmount rest).length < rest.length then skipAmount rest else cs
  | _ => cs

/-- Whether a template begins with a field whose name is a word. -/
def beginsField : List Char → Bool
  | '%' :: '(' :: cs =>
    let name := cs.takeWhile isWordChar
    match cs.dropWhile isWordChar with
    | ')' :: cs =>
      let rest := skipPlaces (skipAmount (cs.dropWhile isFlag))
      !name.isEmpty && rest.head?.any (forms.contains ·)
    | _ => false
  | _ => false

/-- Whether there is a field somewhere. -/
def hasField : List Char → Bool
  | [] => false
  | c :: cs => beginsField (c :: cs) || hasField cs

/-- Reads up to the parenthesis that closes the name; those inside come in pairs. -/
def readName (depth : Nat) : List Char → Option (List Char × List Char)
  | [] => none
  | c :: cs =>
    if c = ')' then
      match depth with
      | 0 => some ([], cs)
      | depth + 1 => (readName depth cs).map fun r => (c :: r.1, r.2)
    else (readName (if c = '(' then depth + 1 else depth) cs).map fun r => (c :: r.1, r.2)

/-- Reads what a field stands for, the percent sign already taken off. A field without a name can
only be the first one. -/
def readValue (e : Entry) (first : Bool) :
    List Char → Except FormatError (Entry.Value × List Char)
  | '(' :: cs =>
    match readName 0 cs with
    | none => .error .openName
    | some (name, rest) =>
      match e.field? (String.ofList name) with
      | none => .error (.unknownField (String.ofList name))
      | some v => .ok (v, rest)
  | cs => .ok (if first then .whole e.summary else .absent, cs)

/-- How large a width or a number of places may be: in digits up to `greatest`, from a value so that
it needs no more room than `greatest` with its sign. -/
structure AmountRange where
  greatest : Nat
  tooMuch : FormatError
  noRoom : FormatError

def widths : AmountRange := ⟨Nat.pow 2 63 - 1, .tooWide, .widthTooLarge⟩

def placeCounts : AmountRange := ⟨maxPlaces, .tooPrecise, .placesTooLarge⟩

def AmountRange.hasRoom (range : AmountRange) (n : Int) : Bool :=
  -(range.greatest + 1 : Int) ≤ n && n ≤ range.greatest

/-- Reads an amount, zero if it has no digit, and what is left of the value: a star uses it up. -/
def readAmount (range : AmountRange) (v : Entry.Value) (cs : List Char) :
    Except FormatError (Nat × Entry.Value × List Char) :=
  match cs, v with
  | '*' :: cs, .number n => if range.hasRoom n then .ok (0, .absent, cs) else .error range.noRoom
  | '*' :: _, .absent => .error .noValue
  | '*' :: _, _ => .error .amountNotNumber
  | cs, v =>
    let n := ofDigits ((cs.takeWhile isDigit).filterMap asciiDigit?)
    if range.greatest < n then .error range.tooMuch else .ok (n, v, cs.dropWhile isDigit)

/-- Skips the size of a number, which says nothing. -/
def skipSize : List Char → List Char
  | c :: cs => if c = 'h' ∨ c = 'l' ∨ c = 'L' then cs else c :: cs
  | [] => []

/-- Reads how a value is written, and what is left of it. -/
def readField (v : Entry.Value) (cs : List Char) :
    Except FormatError (Field × Entry.Value × List Char) := do
  let flags := cs.takeWhile isFlag
  let (width, v, cs) ← readAmount widths v (cs.dropWhile isFlag)
  let (places, v, cs) ← match cs with
    | '.' :: cs => (readAmount placeCounts v cs).map fun r => (some r.1, r.2)
    | cs => pure (none, v, cs)
  match skipSize cs with
  | [] => .error .openField
  | form :: cs => .ok (⟨flags, width, places, form⟩, v, cs)

/-- Fills a template of `size` characters, of which `cs` are left. Two percent signs stand for
one. -/
def fill (size : Nat) (e : Entry) (fuel : Nat) (first : Bool) (cs : List Char) :
    Except FormatError (List Char) :=
  match fuel, cs with
  | _, [] => .ok []
  | 0, _ => .ok []
  | fuel + 1, '%' :: '%' :: cs => (fill size e fuel first cs).map ('%' :: ·)
  | fuel + 1, '%' :: cs => do
    let (v, cs) ← readValue e first cs
    let (f, v, cs) ← readField v cs
    let text ← f.write (size - cs.length - 1) v
    return text ++ (← fill size e fuel false cs)
  | fuel + 1, c :: cs => (fill size e fuel first cs).map (c :: ·)

/-- An empty template stands for the message alone. -/
def orMessage (template : String) : String :=
  if template = "" then "%(message)s" else template

/-- Fills a template with the fields of an entry. -/
def format (template : String) (e : Entry) : Except FormatError String :=
  let cs := (orMessage template).toList
  if hasField cs then (fill cs.length e cs.length true cs).map String.ofList
  else .error (.noField template)

/-- The line for a terminal, where the level has its colour. -/
def formatColoured (template : String) (e : Entry) : Except FormatError String :=
  format template e.coloured

end ChainHistory.Logging
