import SwapRelay.Value.Address
import SwapRelay.Value.Gas
import SwapRelay.Value.Percentage

/-!
# Fee records and fee updates

The prices and margins for relaying to a chain, packed into 32 bytes, and single changes to them.
A token price is written in ten bytes of which the first two must be zero.
-/

namespace SwapRelay

/-- The price of a chain's native token in the smallest units of USDC, behind two zero bytes. -/
def writeTokenPrice (price : Word 8) : Written := .ok ([0, 0] ++ price.toBytes)

def readTokenPrice : Reader (Word 8) := do
  let wide : Word 10 ← Wire.read
  match Word.ofNat? 8 wide.val with
  | some price => return price
  | none => Reader.fail .gasTokenPriceTooLarge

/-- The packed prices and margins for relaying to a chain. -/
structure FeeRecord where
  baseFee : Word 4
  gasPrice : GasPrice
  gasPriceMargin : Percentage
  gasPriceTimestamp : Word 4
  gasPriceUpdateThreshold : Percentage
  maxGasDropoff : GasDropoff
  gasDropoffMargin : Percentage
  gasTokenPrice : Word 8
  deriving DecidableEq, Repr

namespace FeeRecord

def writtenSize : Nat := 32

def zero : FeeRecord where
  baseFee := 0
  gasPrice := default
  gasPriceMargin := .zero
  gasPriceTimestamp := 0
  gasPriceUpdateThreshold := .zero
  maxGasDropoff := .zero
  gasDropoffMargin := .zero
  gasTokenPrice := 0

instance : Wire FeeRecord where
  write record :=
    Wire.write record.baseFee ++ Wire.write record.gasPrice ++ Wire.write record.gasPriceMargin ++
      Wire.write record.gasPriceTimestamp ++ Wire.write record.gasPriceUpdateThreshold ++
      Wire.write record.maxGasDropoff ++ Wire.write record.gasDropoffMargin ++
      writeTokenPrice record.gasTokenPrice
  read := do
    let baseFee ← Wire.read
    let gasPrice ← Wire.read
    let gasPriceMargin ← Wire.read
    let gasPriceTimestamp ← Wire.read
    let gasPriceUpdateThreshold ← Wire.read
    let maxGasDropoff ← Wire.read
    let gasDropoffMargin ← Wire.read
    let gasTokenPrice ← readTokenPrice
    return { baseFee, gasPrice, gasPriceMargin, gasPriceTimestamp, gasPriceUpdateThreshold,
             maxGasDropoff, gasDropoffMargin, gasTokenPrice }

end FeeRecord

/-- A single change to the prices and margins for a chain. -/
inductive FeeUpdate where
  | gasPrice (timestamp : Word 4) (price : GasPrice)
  | gasTokenPrice (price : Word 8)
  | baseFee (fee : Word 4)
  | gasPriceUpdateThreshold (threshold : Percentage)
  | gasPriceMargin (margin : Percentage)
  | gasDropoffMargin (margin : Percentage)
  | maxGasDropoff (dropoff : GasDropoff)
  deriving DecidableEq, Repr

namespace FeeUpdate

instance : Wire FeeUpdate where
  write
    | .gasPrice timestamp price => Wire.tag 0 ++ Wire.write timestamp ++ Wire.write price
    | .gasTokenPrice price => Wire.tag 1 ++ writeTokenPrice price
    | .baseFee fee => Wire.tag 2 ++ Wire.write fee
    | .gasPriceUpdateThreshold threshold => Wire.tag 3 ++ Wire.write threshold
    | .gasPriceMargin margin => Wire.tag 4 ++ Wire.write margin
    | .gasDropoffMargin margin => Wire.tag 5 ++ Wire.write margin
    | .maxGasDropoff dropoff => Wire.tag 6 ++ Wire.write dropoff
  read := do
    match ← Reader.byte with
    | 0 => return .gasPrice (← Wire.read) (← Wire.read)
    | 1 => return .gasTokenPrice (← readTokenPrice)
    | 2 => return .baseFee (← Wire.read)
    | 3 => return .gasPriceUpdateThreshold (← Wire.read)
    | 4 => return .gasPriceMargin (← Wire.read)
    | 5 => return .gasDropoffMargin (← Wire.read)
    | 6 => return .maxGasDropoff (← Wire.read)
    | _ => Reader.fail (.unknownTag .feeUpdate)

end FeeUpdate

/-- A change and the chain whose prices it changes. -/
structure ChainFeeUpdate where
  chain : ChainId
  update : FeeUpdate
  deriving DecidableEq, Repr

namespace ChainFeeUpdate

instance : Wire ChainFeeUpdate where
  write change := Wire.write change.chain ++ Wire.write change.update
  read := return ⟨← Wire.read, ← Wire.read⟩

end ChainFeeUpdate
end SwapRelay
