import ChainHistory.Text.Quoted

namespace ChainHistory.Text

def isAscii (c : Char) : Bool := c.toNat < 0x80

/-- The first run of characters of a text that are not ASCII. -/
structure AsciiError where
  position : Nat
  run : List Char
  deriving DecidableEq

/-- One character is shown as its number, and of several only the positions. -/
def AsciiError.message (e : AsciiError) : String :=
  let place := match e.run with
    | [c] => s!"character '{String.ofList (escapeNumber c)}' in position {e.position}"
    | run => s!"characters in position {e.position}-{e.position + run.length - 1}"
  s!"'ascii' codec can't encode {place}: ordinal not in range(128)"

/-- A text that can be sent as ASCII. -/
def checkAscii (s : String) : Except AsciiError Unit :=
  match s.toList.dropWhile isAscii with
  | [] => .ok ()
  | rest => .error ⟨(s.toList.takeWhile isAscii).length, rest.takeWhile (!isAscii ·)⟩

end ChainHistory.Text
