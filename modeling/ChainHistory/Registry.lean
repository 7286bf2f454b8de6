import ChainHistory.Failure
import ChainHistory.LogLine
import ChainHistory.Platform
import ChainHistory.Text.Case

namespace ChainHistory

open Text

/-- A registered platform and what may be asked of it. -/
structure Registration (H : Type) where
  platform : Platform H
  capabilities : CapabilitySet

/-- The chains of the service, by their coins in lower case, in the order they were registered. -/
structure Registry (H : Type) where
  entries : List (String × Registration H) := []

namespace Registry

variable {H : Type}

/-- A chain is registered once. -/
structure AlreadyRegistered where
  coin : String
  deriving DecidableEq

def AlreadyRegistered.message (e : AlreadyRegistered) : String :=
  s!"Chain '{e.coin}' is already registered"

def find? (r : Registry H) (coin : String) : Option (Registration H) :=
  r.entries.lookup (lower coin)

def contains (r : Registry H) (coin : String) : Bool :=
  (r.find? coin).isSome

def size (r : Registry H) : Nat := r.entries.length

/-- The coins by code point. -/
def coins (r : Registry H) : List String :=
  (r.entries.map (·.1)).mergeSort

def registrationLine (coin : String) (coinId : Int) (supported : Capabilities) : LogLine :=
  let names := supported.toList.map (·.name)
  let shown := if names.isEmpty then "(none)" else ", ".intercalate names
  .info s!"[REGISTRY] Registered {coin} (id={coinId}) with capabilities: {shown}"

/-- Adds a platform, unless its coin is there in some spelling. -/
def register (r : Registry H) (p : Platform H) (enabled : Option Capabilities) :
    Except AlreadyRegistered (Registry H × LogLine) :=
  if r.contains p.coin then .error ⟨lower p.coin⟩
  else
    let capabilities := p.capabilities enabled
    .ok (⟨r.entries ++ [(lower p.coin, ⟨p, capabilities⟩)]⟩,
      registrationLine (lower p.coin) p.coinId capabilities.supported)

def registration (r : Registry H) (coin : String) : Except Failure (Registration H) :=
  match r.find? coin with
  | some e => .ok e
  | none => .error (.unknownCoin coin)

def get (r : Registry H) (coin : String) : Except Failure (Platform H) :=
  (r.registration coin).map (·.platform)

def capabilities (r : Registry H) (coin : String) : Except Failure CapabilitySet :=
  (r.registration coin).map (·.capabilities)

/-- Registers platforms in order and stops at the first that is refused. -/
def registerAll (r : Registry H) :
    List (Platform H × Option Capabilities) →
      Except AlreadyRegistered (Registry H × List LogLine)
  | [] => .ok (r, [])
  | (p, enabled) :: ps => do
    let (r, line) ← r.register p enabled
    let (r, lines) ← registerAll r ps
    return (r, line :: lines)

end Registry

end ChainHistory
