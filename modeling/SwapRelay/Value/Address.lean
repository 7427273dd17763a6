import SwapRelay.Value.Error
import SwapRelay.Wire.Word

/-!
# Addresses

An address of any chain is 32 bytes long. One of an EVM chain is 20 bytes long and stands for the
address that has zeros in front of it, which is the same number.
-/

namespace SwapRelay

/-- A chain's number. -/
abbrev ChainId := Word 2

/-- An account on any chain. -/
abbrev Address := Word 32

/-- An account on an EVM chain. -/
abbrev EvmAddress := Word 20

/-- The digits to base 16, two for a byte, after a mark. -/
def Bytes.toHex (bytes : Bytes) : String :=
  String.ofList (bytes.flatMap fun byte =>
    [Nat.digitChar (byte.toNat / 16), Nat.digitChar (byte.toNat % 16)])

namespace Address

def ofBytes (bytes : Bytes) : Except ValueError Address :=
  match Word.ofBytes? 32 bytes with
  | some address => .ok address
  | none => .error .addressLength

def display (address : Address) : String := "0x" ++ Bytes.toHex (Word.toBytes address)

end Address

namespace EvmAddress

def ofBytes (bytes : Bytes) : Except ValueError EvmAddress :=
  match Word.ofBytes? 20 bytes with
  | some address => .ok address
  | none => .error .evmAddressLength

def display (address : EvmAddress) : String := "0x" ++ Bytes.toHex (Word.toBytes address)

/-- The same account, with twelve zero bytes in front. -/
def toAddress (address : EvmAddress) : Address :=
  ⟨address.val, Nat.lt_of_lt_of_le address.isLt (Nat.pow_le_pow_right (by decide) (by decide))⟩

end EvmAddress
end SwapRelay
