import ChainHistory.Logging.Entry
import ChainHistory.Number.Notation
import ChainHistory.Text.Quoted

namespace ChainHistory.Logging

open Text Number

/-- The most places that can be asked for. -/
def maxPlaces : Nat := Nat.pow 2 31 - 1

/-- A field of more characters than this cannot be held. -/
def maxRoom : Nat := Nat.pow 2 30

/-- How a field is written: its flags, its least width, its places and its form. -/
structure Field where
  flags : List Char
  width : Nat
  places : Option Nat
  form : Char

/-- Why a template cannot be filled. -/
inductive FormatError
  /-- The template has no field at all. -/
  | noField (template : String)
  | unknownField (name : String)
  | openName
  | openField
  /-- The values of the entry are used up. -/
  | noValue
  /-- A width or a number of places that is to be taken from a value which is no number. -/
  | amountNotNumber
  /-- A width or a number of places, in digits or from a value, beyond what can be counted. -/
  | tooWide
  | tooPrecise
  | widthTooLarge
  | placesTooLarge
  /-- More digits than a whole number can have. -/
  | digitsTooMany
  | noMemory
  | unknownForm (form : Char) (index : Nat)
  /-- A value that has no form for whole numbers. -/
  | notWhole (form : Char) (kind : String)
  /-- A value that has no form for real numbers. -/
  | notReal (kind : String)
  | tooLarge
  | notCharacter
  | noSuchCharacter
  deriving DecidableEq

def FormatError.message : FormatError → String
  | noField template => s!"Invalid format '{template}' for '%' style"
  | unknownField name => s!"Formatting field not found in record: {quoted name}"
  | openName => "incomplete format key"
  | openField => "incomplete format"
  | noValue => "not enough arguments for format string"
  | amountNotNumber => "* wants int"
  | tooWide => "width too big"
  | tooPrecise => "precision too big"
  | widthTooLarge => "Python int too large to convert to C ssize_t"
  | placesTooLarge => "Python int too large to convert to C int"
  | digitsTooMany => "precision too large"
  | noMemory => ""
  | unknownForm form index =>
    let shown := if 31 ≤ form.toNat ∧ form.toNat < 127 then form else '?'
    let number := String.ofList (Nat.toDigits 16 form.toNat)
    s!"unsupported format character '{shown}' (0x{number}) at index {index}"
  | notWhole form kind =>
    let wanted := if form ∈ ['o', 'x', 'X'] then "an integer" else "a real number"
    s!"%{form} format: {wanted} is required, not {kind}"
  | notReal kind => s!"must be real number, not {kind}"
  | tooLarge => "int too large to convert to float"
  | notCharacter => "%c requires int or char"
  | noSuchCharacter => "%c arg not in range(0x110000)"

namespace Field

def has (f : Field) (flag : Char) : Bool := flag ∈ f.flags

/-- Fills up to the width with blanks, at the left unless a flag says otherwise. -/
def pad (f : Field) (cs : List Char) : List Char :=
  let blanks := List.replicate (f.width - cs.length) ' '
  if f.has '-' then cs ++ blanks else blanks ++ cs

def ofText (f : Field) (s : String) : List Char :=
  f.pad (match f.places with
    | some n => s.toList.take n
    | none => s.toList)

def sign (f : Field) (negative : Bool) : List Char :=
  if negative then ['-'] else if f.has '+' then ['+'] else if f.has ' ' then [' '] else []

/-- A number behind its sign and the mark of its base. Zeros fill up to the width between them and
the digits if a flag asks for it. -/
def ofDigits (f : Field) (negative : Bool) (mark digits : List Char) : List Char :=
  let head := f.sign negative ++ mark
  let zeros := if f.has '0' && !f.has '-' then f.width - (head.length + digits.length) else 0
  f.pad (head ++ List.replicate zeros '0' ++ digits)

/-- A whole number in a base, with zeros in front up to its places. Three characters are kept for
the sign and the mark. -/
def ofWhole (f : Field) (base : Nat) (mark : List Char) (n : Int) :
    Except FormatError (List Char) :=
  if maxPlaces - 3 < f.places.getD 0 then .error .digitsTooMany
  else if maxRoom < f.places.getD 0 then .error .noMemory
  else
    let ds := Nat.toDigits base n.natAbs
    let ds := List.replicate (f.places.getD 0 - ds.length) '0' ++ ds
    .ok (f.ofDigits (n < 0) (if f.has '#' then mark else []) ds)

/-- A whole number as the real one nearest to it, with six places unless told otherwise. -/
def ofReal (f : Field) (write : Bool → Nat → Nat → List Char) (n : Int) :
    Except FormatError (List Char) :=
  let places := f.places.getD 6
  match (Binary64.ofInt n).toWhole with
  | .whole n =>
    if maxRoom < places ∧ (f.has '#' ∨ f.form ∉ ['g', 'G']) then .error .noMemory
    else .ok (f.ofDigits (n < 0) [] (write (f.has '#') places n.natAbs))
  | _ => .error .tooLarge

/-- With the most places there is no room for the digit before the point, and none is written
behind it. -/
def ofScientific (f : Field) (n : Int) : Except FormatError (List Char) :=
  ofReal { f with places := f.places.map fun p => if p = maxPlaces then 0 else p } scientific n

def ofCharacter (f : Field) (n : Int) : Except FormatError (List Char) :=
  if 0 ≤ n ∧ n < 0x110000 then .ok (f.pad [Char.ofNat n.toNat]) else .error .noSuchCharacter

def ofNumber (f : Field) (index : Nat) (n : Int) : Except FormatError (List Char) :=
  let capitals := List.map Char.toUpper
  match f.form with
  | 's' | 'r' | 'a' => .ok (f.ofText (toString n))
  | 'd' | 'i' | 'u' => f.ofWhole 10 [] n
  | 'o' => f.ofWhole 8 ['0', 'o'] n
  | 'x' => f.ofWhole 16 ['0', 'x'] n
  | 'X' => (f.ofWhole 16 ['0', 'x'] n).map capitals
  | 'f' | 'F' => f.ofReal fixed n
  | 'e' => f.ofScientific n
  | 'E' => (f.ofScientific n).map capitals
  | 'g' => f.ofReal general n
  | 'G' => (f.ofReal general n).map capitals
  | 'c' => f.ofCharacter n
  | form => .error (.unknownForm form index)

/-- Why a value that is no number has none of the forms of one. -/
def refuse (f : Field) (index : Nat) (kind : String) : FormatError :=
  if f.form ∈ ['d', 'i', 'u', 'o', 'x', 'X'] then .notWhole f.form kind
  else if f.form ∈ ['e', 'E', 'f', 'F', 'g', 'G'] then .notReal kind
  else if f.form = 'c' then .notCharacter
  else .unknownForm f.form index

/-- The text of a value that stands at an index of its template. -/
def text (f : Field) (index : Nat) : Entry.Value → Except FormatError (List Char)
  | .number n => f.ofNumber index n
  | .whole s =>
    match f.form with
    | 's' | 'r' => .ok (f.ofText s)
    | 'a' => .ok (f.ofText (onlyAscii s))
    | _ => .error (f.refuse index "dict")
  | .nothing =>
    match f.form with
    | 's' | 'r' | 'a' => .ok (f.ofText "None")
    | _ => .error (f.refuse index "NoneType")
  | .absent => .error .noValue
  | .text s =>
    match f.form, s.toList with
    | 's', _ => .ok (f.ofText s)
    | 'r', _ => .ok (f.ofText (quoted s))
    | 'a', _ => .ok (f.ofText (quotedAscii s))
    | 'c', [c] => .ok (f.pad [c])
    | _, _ => .error (f.refuse index "str")

/-- The text of a value, unless its width cannot be held; what else is wrong comes first. -/
def write (f : Field) (index : Nat) (v : Entry.Value) : Except FormatError (List Char) :=
  if f.width ≤ maxRoom then f.text index v
  else (text { f with width := 0 } index v).bind fun _ => .error .noMemory

end Field

end ChainHistory.Logging
