import ChainHistory.Number.Binary64

namespace ChainHistory.Number

/-! Whole numbers in the notations of real ones. `point` asks for a decimal point even where no
digit follows it. -/

def digits (n : Nat) : List Char := Nat.toDigits 10 n

/-- Digits with a point in front of the last ones. -/
def pointed (point : Bool) (whole places : List Char) : List Char :=
  if places.isEmpty then whole ++ (if point then ['.'] else []) else whole ++ '.' :: places

/-- All digits, and as many zeros behind the point as there are places. -/
def fixed (point : Bool) (places n : Nat) : List Char :=
  pointed point (digits n) (List.replicate places '0')

/-- The first `count` significant digits, rounded, and the exponent of the first of them. -/
def significant (count n : Nat) : List Char × Nat :=
  let size := (digits n).length
  if size ≤ count then (digits n ++ List.replicate (count - size) '0', size - 1)
  else
    let ds := digits (roundHalfEven n (Nat.pow 10 (size - count)))
    if ds.length ≤ count then (ds, size - 1) else (ds.take count, size)

/-- An exponent has two digits at least. -/
def exponentText (exponent : Nat) : List Char :=
  'e' :: '+' :: (if exponent < 10 then ['0'] else []) ++ digits exponent

/-- One digit before the point and `places` behind it. -/
def scientific (point : Bool) (places n : Nat) : List Char :=
  let (ds, exponent) := significant (places + 1) n
  pointed point (ds.take 1) (ds.drop 1) ++ exponentText exponent

/-- At most `count` significant digits, all of them if a point is asked for, else without the zeros
at their end; with an exponent where the whole part would need more. -/
def general (point : Bool) (count n : Nat) : List Char :=
  let count := max count 1
  let (ds, exponent) := significant (if point then count else min count (digits n).length) n
  let shown := fun places : List Char =>
    if point then places else (places.reverse.dropWhile (· = '0')).reverse
  if exponent < count then pointed point (ds.take (exponent + 1)) (shown (ds.drop (exponent + 1)))
  else pointed point (ds.take 1) (shown (ds.drop 1)) ++ exponentText exponent

end ChainHistory.Number
