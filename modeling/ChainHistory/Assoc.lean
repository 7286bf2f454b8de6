namespace ChainHistory.Assoc

variable {α : Type}

/-- Sets a value: in its old place if the key is there, else at the end. -/
def put (key : String) (value : α) : List (String × α) → List (String × α)
  | [] => [(key, value)]
  | e :: es => if e.1 = key then (key, value) :: es else e :: put key value es

/-- Sets a value only if the key is not there. -/
def putNew (key : String) (value : α) (es : List (String × α)) : List (String × α) :=
  if (es.lookup key).isSome then es else es ++ [(key, value)]

/-- The keys in order of first appearance, each with its last value. -/
def ofList (pairs : List (String × α)) : List (String × α) :=
  pairs.foldl (fun es p => put p.1 p.2 es) []

end ChainHistory.Assoc
