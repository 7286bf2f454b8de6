import ChainHistory.Json.Basic
import ChainHistory.Text.Digit

namespace ChainHistory.Json

open Text Number

def escapeChar (c : Char) : List Char :=
  if c = '"' ∨ c = '\\' then ['\\', c]
  else if c.toNat < 0x20 then '\\' :: 'u' :: hexPadded 4 c.toNat
  else [c]

def renderString (s : String) : String :=
  String.ofList ('"' :: s.toList.flatMap escapeChar ++ ['"'])

/-- Digits with as many zeros in front as `width` asks for. -/
def digitsPadded (width n : Nat) : String :=
  let ds := Nat.toDigits 10 n
  String.ofList (List.replicate (width - ds.length) '0' ++ ds)

/-- The exact value: a binary fraction is a decimal one of as many places. -/
def renderReal : Binary64 → String
  | .nan => "NaN"
  | .infinity negative => (if negative then "-" else "") ++ "Infinity"
  | .finite negative m q =>
    let places := (-q).toNat
    let n := m * Nat.pow 5 places * Nat.pow 2 q.toNat
    let unit := Nat.pow 10 places
    (if negative then "-" else "") ++ s!"{n / unit}." ++
      digitsPadded (max places 1) (n % unit)

mutual

def render : Json → String
  | null => "null"
  | bool true => "true"
  | bool false => "false"
  | int n => toString n
  | real x => renderReal x
  | str s => renderString s
  | arr items => "[" ++ renderItems items ++ "]"
  | obj fields => "\x7b" ++ renderFields fields ++ "\x7d"

def renderItems : List Json → String
  | [] => ""
  | [v] => render v
  | v :: vs => render v ++ ", " ++ renderItems vs

def renderFields : List (String × Json) → String
  | [] => ""
  | [(k, v)] => renderString k ++ ": " ++ render v
  | (k, v) :: fs => renderString k ++ ": " ++ render v ++ ", " ++ renderFields fs

end

end ChainHistory.Json
