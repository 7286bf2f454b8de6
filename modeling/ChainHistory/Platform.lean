import ChainHistory.Capability

namespace ChainHistory

/-- An integration of one chain: the handle by which requests name it, the number its records carry,
the calls it implements, and what is needed to reach it. -/
structure Platform (H : Type) where
  coin : String
  coinId : Int
  implemented : Capabilities
  handle : H

/-- What can be asked of a chain. -/
structure CapabilitySet where
  coin : String
  supported : Capabilities
  deriving DecidableEq

/-- What a platform implements and the configuration enables; without a configuration, all that it
implements. -/
def Platform.capabilities {H : Type} (p : Platform H) (enabled : Option Capabilities) :
    CapabilitySet :=
  ⟨p.coin, match enabled with
    | none => p.implemented
    | some s => p.implemented.inter s⟩

end ChainHistory
