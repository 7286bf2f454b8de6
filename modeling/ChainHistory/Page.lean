import ChainHistory.Record.Writer
import ChainHistory.Text.Blank

namespace ChainHistory

/-- One page of a transaction history. -/
structure Page where
  docs : List Record
  deriving DecidableEq

namespace Page

/-- Keeps the first record of each id. -/
def firstOfEachId : List Record → List Record
  | [] => []
  | r :: rs => r :: (firstOfEachId rs).filter fun s => s.id ≠ r.id

/-- Newest first; records of one time stay in the order they came in. -/
def newestFirst (rs : List Record) : List Record :=
  rs.mergeSort fun a b => b.timestamp ≤ a.timestamp

def keepMemos (valid : Record → Bool) (rs : List Record) : List Record :=
  rs.filter valid

def keepToken (token : String) (rs : List Record) : List Record :=
  rs.filter fun r => r.tokenId = some token

/-- An empty token asks for no filter. -/
def keepActiveToken (token : Option String) (rs : List Record) : List Record :=
  match Text.nonEmpty? token with
  | none => rs
  | some token => keepToken token rs

/-- Keeps the head of a list that is longer than `limit`. A negative limit drops as many records
from the tail. -/
def truncate (limit : Int) (rs : List Record) : List Record :=
  if 0 ≤ limit then rs.take limit.toNat else rs.take (rs.length - limit.natAbs)

def annotate (address : String) (rs : List Record) : List Record :=
  rs.map (·.seenFrom address)

/-- The history of an address. Duplicates go before the filters, and the filters before the cut, so
that a page is as full as it can be. -/
def ofAddress (limit : Int) (valid : Record → Bool) (token : Option String) (address : String)
    (rs : List Record) : Page :=
  ⟨annotate address (truncate limit (keepActiveToken token
    (keepMemos valid (newestFirst (firstOfEachId rs)))))⟩

/-- The history of an account, which comes ordered, free of duplicates and cut to size. -/
def ofAccount (valid : Record → Bool) (account : String) (rs : List Record) : Page :=
  ⟨annotate account (keepMemos valid rs)⟩

/-- The history of an extended key, which has no one address to be seen from. -/
def ofXpub (limit : Int) (valid : Record → Bool) (rs : List Record) : Page :=
  ⟨truncate limit (keepMemos valid (newestFirst (firstOfEachId rs)))⟩

def toJson (p : Page) : Json :=
  .obj [
    ("total", .int p.docs.length),
    ("docs", .arr (p.docs.map (·.toJson))),
    ("status", .bool true)]

end Page

end ChainHistory
