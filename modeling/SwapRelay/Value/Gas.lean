import SwapRelay.Value.Error
import SwapRelay.Wire.Codec

/-!
# Gas amounts

Gas prices and gas drop-offs travel in four bytes, in units coarse enough for that: a million wei
for a price, a million million wei for a drop-off.
-/

namespace SwapRelay

/-- A gas price in units of a million wei. -/
structure GasPrice where
  units : Word 4
  deriving DecidableEq, Repr

namespace GasPrice

def unit : Nat := 1000000

def wei (price : GasPrice) : Nat := price.units.val * unit

/-- Rounds an amount of wei down to a unit. -/
def ofWei (amount : Word 8) : Except ValueError GasPrice :=
  match Word.ofNat? 4 (amount.val / unit) with
  | some units => .ok ⟨units⟩
  | none => .error .gasPriceTooLarge

instance : Inhabited GasPrice := ⟨⟨0⟩⟩

instance : Wire GasPrice where
  write price := Wire.write price.units
  read := return ⟨← Wire.read⟩

end GasPrice

/-- An amount of native gas handed to a recipient, in units of `10 ^ 12` wei. -/
structure GasDropoff where
  units : Word 4
  deriving DecidableEq, Repr

namespace GasDropoff

def zero : GasDropoff := ⟨0⟩

def isZero (dropoff : GasDropoff) : Bool := dropoff.units = 0

def unit : Nat := 1000000000000

def wei (dropoff : GasDropoff) : Nat := dropoff.units.val * unit

/-- Rounds an amount of wei down to a unit. -/
def ofWei (amount : Word 16) : Except ValueError GasDropoff :=
  match Word.ofNat? 4 (amount.val / unit) with
  | some units => .ok ⟨units⟩
  | none => .error .gasDropoffTooLarge

instance : Inhabited GasDropoff := ⟨zero⟩

instance : Wire GasDropoff where
  write dropoff := Wire.write dropoff.units
  read := return ⟨← Wire.read⟩

end GasDropoff
end SwapRelay
