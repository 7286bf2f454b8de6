import ChainHistory.Failure
import ChainHistory.Platform

namespace ChainHistory

/-- A question about transactions. -/
inductive Query
  | address (address : String) (token : Option String)
  | account (account : String) (token : Option String)
  | xpub (xpub : String)
  deriving DecidableEq

/-- A call to a platform. The answer to an account call is already ordered, free of duplicates and
cut to the limit. -/
inductive Call
  | tx (address : String)
  | token (address : String) (token : String)
  | account (account : String) (token : Option String) (limit : Int)
  | xpub (xpub : String)
  deriving DecidableEq

def Call.capability : Call → Capability
  | tx _ => .tx
  | token _ _ => .token
  | account _ _ _ => .account
  | xpub _ => .xpub

namespace Query

/-- The call that answers a query. A token that is blank asks for no token. -/
def call (limit : Int) : Query → Call
  | address a token =>
    match Text.clean token with
    | some t => .token a t
    | none => .tx a
  | account a token => .account a (Text.clean token) limit
  | xpub x => .xpub x

/-- Picks the call by what the chain supports alone. -/
def resolve (q : Query) (limit : Int) (s : CapabilitySet) : Except Failure Call :=
  let c := q.call limit
  if s.supported.has c.capability then .ok c
  else .error (.noCapability s.coin c.capability.name)

end Query

/-- What is handed over to be resolved: a query, or a bare value, which is none. -/
inductive Subject
  | query (q : Query)
  | bare (v : Json)

def Subject.resolve (limit : Int) (s : CapabilitySet) : Subject → Except Failure Call
  | query q => q.resolve limit s
  | bare v => .error (.unsupportedQuery v.kindName)

end ChainHistory
