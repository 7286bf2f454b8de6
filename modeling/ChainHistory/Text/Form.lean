import ChainHistory.Text.Percent
import ChainHistory.Text.Split

namespace ChainHistory.Text

/-- A plus sign is a space; then escapes are resolved. -/
def decodeFormText (cs : List Char) : String :=
  String.ofList (Percent.decode (cs.map fun c => if c = '+' then ' ' else c))

/-- A field of a query; one without an equals sign is blank. -/
def formField (cs : List Char) : String × String :=
  match cut '=' cs with
  | some (name, value) => (decodeFormText name, decodeFormText value)
  | none => (decodeFormText cs, "")

/-- The fields of a query in order. -/
def formFields (query : List Char) : List (String × String) :=
  ((splitOn '&' query).filter (!·.isEmpty)).map formField

/-- The last value of a name. -/
def lastValue? (name : String) (fields : List (String × String)) : Option String :=
  fields.reverse.lookup name

/-- The fields with those of one name put together, in order of the first of them. -/
def groupFields (fields : List (String × String)) : List (String × String) :=
  (fields.map (·.1)).eraseDups.flatMap fun name => fields.filter (·.1 = name)

/-- Escapes all but unreserved characters, and writes a space as a plus sign. -/
def encodeFormText (s : String) : List Char :=
  s.toList.flatMap fun c => if c = ' ' then ['+'] else Percent.encode [c]

/-- The query that holds some fields. -/
def formText (fields : List (String × String)) : List Char :=
  joinWith '&' (fields.map fun f => encodeFormText f.1 ++ '=' :: encodeFormText f.2)

end ChainHistory.Text
