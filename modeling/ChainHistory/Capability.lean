import ChainHistory.Text.Quoted

namespace ChainHistory

/-- A kind of call that a chain can serve. -/
inductive Capability
  | tx
  | token
  | account
  | xpub
  deriving DecidableEq

/-- A word that is none of the names of a family. -/
structure UnknownName where
  name : String
  family : String
  deriving DecidableEq

def UnknownName.message (e : UnknownName) : String :=
  s!"{Text.quoted e.name} is not a valid {e.family}"

namespace Capability

def all : List Capability := [tx, token, account, xpub]

def name : Capability → String
  | tx => "tx"
  | token => "token"
  | account => "account"
  | xpub => "xpub"

def ofName (s : String) : Except UnknownName Capability :=
  match all.find? (·.name = s) with
  | some c => .ok c
  | none => .error ⟨s, "Capability"⟩

end Capability

/-- A set of capabilities. -/
structure Capabilities where
  tx : Bool := false
  token : Bool := false
  account : Bool := false
  xpub : Bool := false
  deriving DecidableEq

namespace Capabilities

def none : Capabilities := {}

def every : Capabilities := ⟨true, true, true, true⟩

def has (s : Capabilities) : Capability → Bool
  | .tx => s.tx
  | .token => s.token
  | .account => s.account
  | .xpub => s.xpub

def insert (c : Capability) (s : Capabilities) : Capabilities :=
  match c with
  | .tx => { s with tx := true }
  | .token => { s with token := true }
  | .account => { s with account := true }
  | .xpub => { s with xpub := true }

def ofList (cs : List Capability) : Capabilities :=
  cs.foldr insert none

def inter (s t : Capabilities) : Capabilities :=
  ⟨s.tx && t.tx, s.token && t.token, s.account && t.account, s.xpub && t.xpub⟩

/-- The members, in the order in which capabilities are listed to a reader. -/
def toList (s : Capabilities) : List Capability :=
  Capability.all.filter s.has

/-- The names of the members in alphabetical order. -/
def sortedNames (s : Capabilities) : List String :=
  (s.toList.map (·.name)).mergeSort

end Capabilities

end ChainHistory
