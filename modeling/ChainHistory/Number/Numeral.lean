import ChainHistory.Text.Blank
import ChainHistory.Text.Split
import ChainHistory.Text.Quoted

namespace ChainHistory.Number

open Text

/-- Integers are written in at most this many digits. -/
def maxDigits : Nat := 4300

inductive NumeralError
  /-- The text is no integer. -/
  | malformed (text : String)
  | tooLong (digits : Nat)
  deriving DecidableEq

def NumeralError.message : NumeralError → String
  | .malformed text =>
    "invalid literal for int() with base 10: " ++
      String.ofList ((quoted text).toList.take 200)
  | .tooLong digits =>
    s!"Exceeds the limit ({maxDigits} digits) for integer string conversion: value has " ++
      s!"{digits} digits; use sys.set_int_max_str_digits() to increase the limit"

/-- Takes off one sign; `true` for a minus. -/
def takeSign : List Char → Bool × List Char
  | '-' :: cs => (true, cs)
  | '+' :: cs => (false, cs)
  | cs => (false, cs)

/-- The digits at the start, which single underscores may separate, and what follows; `none` when
there is no digit or an underscore stands elsewhere. -/
def takeDigits (digit? : Char → Option Nat) (cs : List Char) : Option (List Nat × List Char) :=
  let inRun := fun c => (digit? c).isSome || c = '_'
  let run := cs.takeWhile inRun
  if (splitOn '_' run).any (·.isEmpty) then none
  else some (run.filterMap digit?, cs.dropWhile inRun)

def signed (negative : Bool) (n : Nat) : Int :=
  if negative then -n else n

/-- Reads an integer in digits of any script with white space around it. A run of digits that is
too long is refused before what follows it is looked at. -/
def parseInt (text : String) : Except NumeralError Int :=
  let (negative, cs) := takeSign (text.toList.dropWhile isWhite)
  match takeDigits digitValue? cs with
  | none => .error (.malformed text)
  | some (ds, rest) =>
    if ds.length > maxDigits then .error (.tooLong ds.length)
    else if rest.all isWhite then .ok (signed negative (ofDigits ds))
    else .error (.malformed text)

end ChainHistory.Number
