import SwapRelay.Message.Output
import SwapRelay.Message.Redeem

/-!
# Swap messages

The message that a deployment attaches to a transfer for the deployment at the other end: whom to
pay, how and in what. A version byte stands in front of the body.
-/

namespace SwapRelay

/-- The instructions for the receiving deployment. -/
structure SwapMessage where
  recipient : Address
  redeemMode : RedeemMode
  outputToken : OutputToken
  deriving DecidableEq, Repr

namespace SwapMessage

def version : UInt8 := 1

def writtenSize (message : SwapMessage) : Nat :=
  32 + message.redeemMode.writtenSize + message.outputToken.writtenSize

instance : Wire SwapMessage where
  write message :=
    Wire.write message.recipient ++ Wire.write message.redeemMode ++ Wire.write message.outputToken
  read := return ⟨← Wire.read, ← Wire.read, ← Wire.read⟩

def encode (message : SwapMessage) : Written := Wire.tag version ++ Wire.write message

/-- Reads all of the bytes as a message of this version. -/
def decode : Bytes → Except DecodeError SwapMessage
  | [] => .error .endOfInput
  | head :: body =>
    if head = version then Wire.decode SwapMessage body else .error .unknownVersion

end SwapMessage
end SwapRelay
