import ChainHistory.Text.Digit
import ChainHistory.Text.Printable

namespace ChainHistory.Text

/-- Single quotes, unless the text holds one and no double quote. -/
def quoteMark (cs : List Char) : Char :=
  if '\'' ∈ cs ∧ '"' ∉ cs then '"' else '\''

/-- The number of a character in the fewest of two, four or eight digits. -/
def escapeNumber (c : Char) : List Char :=
  if c.toNat < 0x100 then '\\' :: 'x' :: hexPadded 2 c.toNat
  else if c.toNat < 0x10000 then '\\' :: 'u' :: hexPadded 4 c.toNat
  else '\\' :: 'U' :: hexPadded 8 c.toNat

/-- A character as it stands between quote marks: escaped when it is the mark, a backslash or not
printable. -/
def quoteChar (mark c : Char) : List Char :=
  if c = mark ∨ c = '\\' then ['\\', c]
  else if c = '\n' then ['\\', 'n']
  else if c = '\r' then ['\\', 'r']
  else if c = '\t' then ['\\', 't']
  else if isPrintable c then [c]
  else escapeNumber c

/-- A text in quotes, so that what cannot be seen in it can be read. -/
def quoted (s : String) : String :=
  let mark := quoteMark s.toList
  String.ofList (mark :: s.toList.flatMap (quoteChar mark) ++ [mark])

/-- Escapes what is not ASCII in a text that is quoted already. -/
def onlyAscii (s : String) : String :=
  String.ofList (s.toList.flatMap fun c => if c.toNat < 0x80 then [c] else escapeNumber c)

/-- A text in quotes in which only ASCII characters stand for themselves. -/
def quotedAscii (s : String) : String := onlyAscii (quoted s)

end ChainHistory.Text
