/-!
# Refused values

The causes for which a number or a byte string is no value of the type asked for.
-/

namespace SwapRelay

/-- Why a value cannot be built. -/
inductive ValueError where
  /-- The two bytes express more than 100 percent. -/
  | percentageTooLarge
  | percentageOutOfRange
  | ratioOutOfRange
  | gasPriceTooLarge
  | gasDropoffTooLarge
  | addressLength
  | evmAddressLength
  /-- The number needs more than the given bytes. -/
  | tooWide (width : Nat)
  deriving DecidableEq, Repr

def ValueError.message : ValueError → String
  | .percentageTooLarge => "Percentage exceeds 100"
  | .percentageOutOfRange => "Percentage must be within [0, 100]"
  | .ratioOutOfRange => "Ratio must be within [0, 1]"
  | .gasPriceTooLarge => "GasPrice does not fit u32"
  | .gasDropoffTooLarge => "GasDropoff does not fit u32"
  | .addressLength => "UniversalAddress must be 32 bytes"
  | .evmAddressLength => "EvmAddress must be 20 bytes"
  | .tooWide width => "Value is too large for Uint<" ++ toString (8 * width) ++ ">"

end SwapRelay
