import ChainHistory.Assoc
import ChainHistory.Text.Blank
import ChainHistory.Text.Split
import ChainHistory.Text.Utf8

namespace ChainHistory.Settings

open Text

/-- Names of variables with their texts. -/
abbrev Variables := List (String × String)

namespace ConfigFile

/-- Takes off quotes of one kind that stand at both ends. -/
def unquote (cs : List Char) : List Char :=
  match cs with
  | [] => []
  | q :: rest =>
    if (q = '"' ∨ q = '\'') ∧ rest.getLast? = some q then rest.dropLast else cs

/-- The setting on a line, if there is one: a key, a colon and a value that is not blank. A comment
takes a line of its own, or follows the value after a blank. -/
def setting? (line : List Char) : Option (String × String) :=
  let line := trim isBlank line
  if line.head? = some '#' then none
  else match cut ':' line with
    | none => none
    | some (key, value) =>
      let key := trim isBlank key
      let value := trim isBlank (before [' ', '#'] value)
      if key.isEmpty || value.isEmpty then none
      else some (String.ofList key, String.ofList (unquote value))

/-- The settings of a text; the last one of a key counts. -/
def ofText (cs : List Char) : Variables :=
  Assoc.ofList ((lines cs).filterMap setting?)

/-- Reads the bytes of a file in blocks of 8192. -/
def ofBytes (bs : List UInt8) : Except Utf8.Error Variables :=
  (Utf8.decodeBlocks [] (Utf8.blocks 8191 bs)).map ofText

end ConfigFile

end ChainHistory.Settings
