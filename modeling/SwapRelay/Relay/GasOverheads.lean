import SwapRelay.Wire.Word

/-!
# Gas overheads

The gas that each step of relaying to an EVM chain is charged with.
-/

namespace SwapRelay

/-- Gas for a swap: a fixed part and a part for each pool. -/
structure VenueGas where
  overhead : Word 8
  perSwap : Word 8
  deriving DecidableEq, Repr

/-- The gas that the steps of relaying use. -/
structure GasOverheads where
  base : Word 8
  dropoff : Word 8
  uniswapV3 : VenueGas
  traderJoe : VenueGas
  deriving DecidableEq, Repr

namespace GasOverheads

/-- The gas that is charged unless the settings say otherwise. -/
def standard : GasOverheads where
  base := 100000
  dropoff := 10000
  uniswapV3 := ⟨100000, 100000⟩
  traderJoe := ⟨100000, 100000⟩

end GasOverheads
end SwapRelay
