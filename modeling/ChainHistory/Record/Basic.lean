import ChainHistory.Text.Printable

namespace ChainHistory

/-- How a transaction concerns the address that was asked about. -/
inductive Direction
  | incoming
  | outgoing
  | yourself
  | unknown
  deriving DecidableEq

namespace Direction

def all : List Direction := [incoming, outgoing, yourself, unknown]

def name : Direction → String
  | incoming => "incoming"
  | outgoing => "outgoing"
  | yourself => "yourself"
  | unknown => "unknown"

def ofName? (s : String) : Option Direction :=
  all.find? (·.name = s)

end Direction

inductive Status
  | completed
  | pending
  | error
  deriving DecidableEq

namespace Status

def all : List Status := [completed, pending, error]

def name : Status → String
  | completed => "completed"
  | pending => "pending"
  | error => "error"

def ofName? (s : String) : Option Status :=
  all.find? (·.name = s)

end Status

/-- One transaction as the indexer reports it. The timestamp counts seconds. -/
structure Record where
  id : String
  coin : Int
  timestamp : Int
  senders : List String := []
  receivers : List String := []
  memo : Option String := none
  tokenId : Option String := none
  block : Option Int := none
  fee : Option String := none
  status : Status := .completed
  kind : String := "transfer"
  direction : Option Direction := none
  deriving DecidableEq

namespace Record

/-- A memo is shown only if it is short enough and printable; an empty one never hurts. -/
def memoValid (maxLength : Int) (r : Record) : Bool :=
  match r.memo with
  | none => true
  | some m => m.toList.isEmpty || (m.toList.length ≤ maxLength && m.toList.all Text.isPrintable)

def directionFor (address : String) (r : Record) : Direction :=
  if address ∈ r.senders then
    if address ∈ r.receivers then .yourself else .outgoing
  else if address ∈ r.receivers then .incoming else .unknown

/-- The record as seen from an address. -/
def seenFrom (address : String) (r : Record) : Record :=
  { r with direction := some (r.directionFor address) }

end Record

end ChainHistory
