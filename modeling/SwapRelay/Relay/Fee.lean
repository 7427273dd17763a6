import SwapRelay.Message.Output
import SwapRelay.Relay.GasOverheads
import SwapRelay.Relay.Terms

/-!
# Relayer fees

The fee for delivering an output token with a gas drop-off is the sum of the peer's flat fee, the
cost of the drop-off and the cost of the gas that relaying uses, each cost with its margin. Amounts
and gas are kept within eight bytes, products within sixteen, and the fee within six.
-/

namespace SwapRelay

def nativeUnit : Nat := 1000000000000000000

def feeAmount (fee : Word 6) : Word 8 := fee.widen 8

/-- The amount together with a margin in millionths of it. -/
def withMargin (margin : Word 4) (amount : Word 8) : Except SwapError (Word 8) := do
  let product ← within 16 (amount.val * margin.val)
  within 8 (amount.val + product.val / fullMargin)

namespace GasOverheads

def forSwaps (venue : VenueGas) (swapCount : Nat) : Except SwapError (Word 8) := do
  let count ← within 8 swapCount
  let perSwap ← within 8 (venue.perSwap.val * count.val)
  within 8 (venue.overhead.val + perSwap.val)

def forVenue (overheads : GasOverheads) : SwapVenue → Except SwapError (Word 8)
  | .uniswapV3 path => forSwaps overheads.uniswapV3 path.swapCount
  | .traderJoe path => forSwaps overheads.traderJoe path.swapCount
  | .jupiterV6 _ => .error .unsupportedSwapVenue

def forDelivery (overheads : GasOverheads) (dropoff : GasDropoff) : Except SwapError (Word 8) :=
  if dropoff.isZero then .ok overheads.base
  else within 8 (overheads.base.val + overheads.dropoff.val)

def total (overheads : GasOverheads) (dropoff : GasDropoff) (token : OutputToken) :
    Except SwapError (Word 8) := do
  let gas ← overheads.forDelivery dropoff
  match token.swap? with
  | some swap =>
    let swapGas ← overheads.forVenue swap.venue
    within 8 (gas.val + swapGas.val)
  | none => return gas

end GasOverheads

namespace RelayTerms

/-- The cost of native tokens in the smallest units of USDC, margin included. -/
def nativeCost (terms : RelayTerms) (margin : Word 4) (amount : Word 16) :
    Except SwapError (Word 8) := do
  let product ← within 16 (amount.val * terms.nativeTokenPrice.val)
  let cost ← within 8 (product.val / nativeUnit)
  withMargin margin cost

/-- The cost of a gas drop-off, which must not exceed the peer's maximum. -/
def dropoffCost (terms : RelayTerms) (dropoff : GasDropoff) : Except SwapError (Word 8) :=
  if dropoff.isZero then .ok 0
  else do
    require (dropoff.units ≤ terms.maxGasDropoff.units) .gasDropoffTooHigh
    terms.nativeCost terms.gasDropoffMargin (← within 16 dropoff.wei)

def gasCost (terms : RelayTerms) (overheads : GasOverheads) (dropoff : GasDropoff)
    (token : OutputToken) : Except SwapError (Word 8) := do
  match terms.evm with
  | some evm =>
    let gas ← overheads.total dropoff token
    terms.nativeCost evm.gasPriceMargin (← within 16 (gas.val * evm.gasPrice.wei))
  | none => throw .unsupportedExecutionEnvironment

/-- The fee for delivering an output token with a gas drop-off to the peer. -/
def relayerFee (terms : RelayTerms) (overheads : GasOverheads) (dropoff : GasDropoff)
    (token : OutputToken) : Except SwapError (Word 6) := do
  require (!terms.isDisabled) .relayingDisabled
  let flat ← within 8 (terms.baseFee.val + (← terms.dropoffCost dropoff).val)
  let fee ← within 8 (flat.val + (← terms.gasCost overheads dropoff token).val)
  match Word.ofNat? 6 fee.val with
  | some fee => return fee
  | none => throw .relayerFeeOverflow

end RelayTerms
end SwapRelay
