import ChainHistory.Assoc
import ChainHistory.Number.Binary64

namespace ChainHistory

open Number

/-- A JSON value. A number written with a fraction or an exponent is a `real`, any other an
`int`. -/
inductive Json
  | null
  | bool (b : Bool)
  | int (n : Int)
  | real (x : Binary64)
  | str (s : String)
  | arr (items : List Json)
  | obj (fields : List (String × Json))

namespace Json

/-- The fields in order of first appearance, each with its last value. -/
def ofPairs (pairs : List (String × Json)) : List (String × Json) :=
  Assoc.ofList pairs

/-- The word for the kind of a value in error texts. -/
def kindName : Json → String
  | null => "NoneType"
  | bool _ => "bool"
  | int _ => "int"
  | real _ => "float"
  | str _ => "str"
  | arr _ => "list"
  | obj _ => "dict"

end Json

end ChainHistory
