import SwapRelay.Error
import SwapRelay.Message.FeeRecord

/-!
# Relay terms

What a peer charges for relaying: a flat fee, the price of its native token, its gas price, and
margins on both costs in millionths. Fee records express the same in packed form, with margins as
percentages; turning a margin into a percentage loses digits.
-/

namespace SwapRelay

/-- Seconds after a fill was prepared until a relayer may pay out USDC instead of swapping. -/
structure SwapTimeLimit where
  fast : Word 4
  finalized : Word 4
  deriving DecidableEq, Repr

/-- Prices of an EVM chain. -/
structure EvmTerms where
  gasPrice : GasPrice
  /-- In millionths. -/
  gasPriceMargin : Word 4
  deriving DecidableEq, Repr

/-- What a peer charges for relaying. -/
structure RelayTerms where
  /-- In the smallest units of USDC; the greatest value disables relaying. -/
  baseFee : Word 4
  /-- In the smallest units of USDC. -/
  nativeTokenPrice : Word 8
  maxGasDropoff : GasDropoff
  /-- In millionths. -/
  gasDropoffMargin : Word 4
  /-- Absent for a chain without gas prices. -/
  evm : Option EvmTerms
  swapTimeLimit : SwapTimeLimit
  deriving DecidableEq, Repr

def fullMargin : Nat := 1000000

def fullMarginAmount : Word 8 := ⟨fullMargin, by decide⟩

namespace Percentage

def toMargin (p : Percentage) : Word 4 :=
  (Word.ofNat? 4 (p.scale fullMarginAmount).val).getD ⟨fullMargin, by decide⟩

def ofMargin (margin : Word 4) : Except SwapError Percentage :=
  match ofRatio (margin.widen 8) fullMarginAmount with
  | .ok p => .ok p
  | .error _ => .error .invalidMargin

end Percentage

namespace RelayTerms

def isDisabled (terms : RelayTerms) : Bool := terms.baseFee = Word.greatest 4

/-- Prices must not be zero and margins must not exceed 100 percent. -/
def verify (terms : RelayTerms) : Except SwapError Unit := do
  require (0 < terms.baseFee) .invalidBaseFee
  require (0 < terms.nativeTokenPrice) .invalidNativeTokenPrice
  require (terms.gasDropoffMargin.val ≤ fullMargin) .invalidMargin
  match terms.evm with
  | some evm =>
    require (0 < evm.gasPrice.units) .invalidGasPrice
    require (evm.gasPriceMargin.val ≤ fullMargin) .invalidMargin
  | none => return ()

/-- The terms that a fee record describes; it says nothing of time limits. -/
def ofFeeRecord (record : FeeRecord) (swapTimeLimit : SwapTimeLimit) : RelayTerms where
  baseFee := record.baseFee
  nativeTokenPrice := record.gasTokenPrice
  maxGasDropoff := record.maxGasDropoff
  gasDropoffMargin := record.gasDropoffMargin.toMargin
  evm := some ⟨record.gasPrice, record.gasPriceMargin.toMargin⟩
  swapTimeLimit := swapTimeLimit

/-- The gas price and the packed margin on it, both zero for a chain without gas prices. -/
def packedGasPrice (terms : RelayTerms) : Except SwapError (GasPrice × Percentage) :=
  match terms.evm with
  | some evm => do return (evm.gasPrice, ← Percentage.ofMargin evm.gasPriceMargin)
  | none => return (default, .zero)

/-- The fee record that reports the terms. What they do not track is zero. -/
def toFeeRecord (terms : RelayTerms) : Except SwapError FeeRecord := do
  let (gasPrice, gasPriceMargin) ← terms.packedGasPrice
  let gasDropoffMargin ← Percentage.ofMargin terms.gasDropoffMargin
  return {
    baseFee := terms.baseFee
    gasPrice
    gasPriceMargin
    gasPriceTimestamp := 0
    gasPriceUpdateThreshold := .zero
    maxGasDropoff := terms.maxGasDropoff
    gasDropoffMargin
    gasTokenPrice := terms.nativeTokenPrice
  }

def modifyEvm (terms : RelayTerms) (change : EvmTerms → EvmTerms) : Except SwapError RelayTerms :=
  match terms.evm with
  | some evm => .ok { terms with evm := some (change evm) }
  | none => .error .unsupportedExecutionEnvironment

/-- Applies one change. The outcome has yet to be verified. -/
def apply (terms : RelayTerms) : FeeUpdate → Except SwapError RelayTerms
  | .baseFee fee => .ok { terms with baseFee := fee }
  | .gasTokenPrice price => .ok { terms with nativeTokenPrice := price }
  | .maxGasDropoff dropoff => .ok { terms with maxGasDropoff := dropoff }
  | .gasDropoffMargin margin => .ok { terms with gasDropoffMargin := margin.toMargin }
  | .gasPrice _ price => terms.modifyEvm fun evm => { evm with gasPrice := price }
  | .gasPriceMargin margin =>
    terms.modifyEvm fun evm => { evm with gasPriceMargin := margin.toMargin }
  -- Relay terms hold no update threshold.
  | .gasPriceUpdateThreshold _ => .error .unsupportedFeeUpdate

end RelayTerms
end SwapRelay
