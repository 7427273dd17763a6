import SwapRelay.Relay.GasOverheads
import SwapRelay.Relay.Terms

/-!
# Settings

What is fixed when a deployment is set up: its own chain, the gas it charges for, and the time limit
of peers that governance registers, since governance commands carry none.
-/

namespace SwapRelay

/-- The settings of a deployment. -/
structure Settings where
  chain : ChainId
  gasOverheads : GasOverheads
  swapTimeLimit : SwapTimeLimit
  deriving DecidableEq, Repr

namespace Settings

def standardTimeLimit : SwapTimeLimit := ⟨10, 30⟩

def standard (chain : ChainId) : Settings := ⟨chain, .standard, standardTimeLimit⟩

end Settings
end SwapRelay
