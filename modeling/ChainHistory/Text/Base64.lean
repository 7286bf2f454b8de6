namespace ChainHistory.Text.Base64

/-- The character of six bits. -/
def digit (n : Nat) : Char :=
  if n < 26 then Char.ofNat (65 + n)
  else if n < 52 then Char.ofNat (71 + n)
  else if n < 62 then Char.ofNat (n - 4)
  else if n = 62 then '+'
  else '/'

/-- The lowest 24 bits of a number as four characters. -/
def group (n : Nat) : List Char :=
  [digit (n / 0x40000 % 64), digit (n / 0x1000 % 64), digit (n / 0x40 % 64), digit (n % 64)]

/-- Four characters for every three bytes; the last group is filled up with equals signs. -/
def encode : List UInt8 → List Char
  | [] => []
  | [a] => (group (a.toNat * 0x10000)).take 2 ++ ['=', '=']
  | [a, b] => (group (a.toNat * 0x10000 + b.toNat * 0x100)).take 3 ++ ['=']
  | a :: b :: c :: bs => group (a.toNat * 0x10000 + b.toNat * 0x100 + c.toNat) ++ encode bs

end ChainHistory.Text.Base64
