import ChainHistory.Json.Basic

namespace ChainHistory

/-- What can be wrong with a field. -/
inductive FaultKind
  | missing
  | notText
  | notList
  | notInteger
  | notFinite
  | fractional
  | unreadable
  | tooLarge
  | notListed
  deriving DecidableEq

def FaultKind.name : FaultKind → String
  | missing => "missing"
  | notText => "string_type"
  | notList => "list_type"
  | notInteger => "int_type"
  | notFinite => "finite_number"
  | fractional => "int_from_float"
  | unreadable => "int_parsing"
  | tooLarge => "int_parsing_size"
  | notListed => "enum"

/-- A fault of a field, or of one item of a field that is a list. -/
structure FieldFault where
  field : String
  index : Option Nat
  kind : FaultKind
  deriving DecidableEq

/-- A value, or everything that is wrong with it. -/
inductive Checked (α : Type) : Type
  | valid (a : α)
  | invalid (faults : List FieldFault)

namespace Checked

variable {α β : Type}

/-- Applies a function to one more value; faults of both sides are kept, the function's first. -/
def apply : Checked (α → β) → Checked α → Checked β
  | valid f, valid a => valid (f a)
  | valid _, invalid e => invalid e
  | invalid e, valid _ => invalid e
  | invalid e, invalid e' => invalid (e ++ e')

/-- All values, or the faults of all. -/
def sequence : List (Checked α) → Checked (List α)
  | [] => valid []
  | c :: cs => ((valid List.cons).apply c).apply (sequence cs)

def toExcept : Checked α → Except (List FieldFault) α
  | valid a => .ok a
  | invalid e => .error e

end Checked

end ChainHistory
