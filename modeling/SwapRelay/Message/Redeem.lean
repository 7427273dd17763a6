import SwapRelay.Value.Address
import SwapRelay.Value.Gas

/-!
# Redeem modes and redeem options

How the receiving side hands out a transfer. A redeem mode is part of the message between two
deployments. A redeem option is what a sender asks for when staging: its payload has no sender yet,
and its relay names the greatest fee that the sender accepts instead of the fee itself.
-/

namespace SwapRelay

/-- How the receiving side hands out a transfer. -/
inductive RedeemMode where
  /-- The recipient collects the amount. -/
  | direct
  /-- The recipient is a program that also receives the payload. -/
  | payload (sender : Address) (body : Bytes)
  /-- A relayer pays the recipient out and takes the fee. -/
  | relay (gasDropoff : GasDropoff) (fee : Word 6)
  deriving DecidableEq, Repr

namespace RedeemMode

/-- The greatest length of a payload, which is said in two bytes. -/
def maxPayload : Nat := 65535

def isRelay : RedeemMode → Bool
  | .relay .. => true
  | _ => false

def writtenSize : RedeemMode → Nat
  | .direct => 1
  | .payload _ body => 35 + body.length
  | .relay .. => 11

instance : Wire RedeemMode where
  write
    | .direct => Wire.tag 0
    | .payload sender body => Wire.tag 1 ++ Wire.write sender ++ Wire.writeCounted 2 body
    | .relay gasDropoff fee => Wire.tag 2 ++ Wire.write gasDropoff ++ Wire.write fee
  read := do
    match ← Reader.byte with
    | 0 => return .direct
    | 1 => return .payload (← Wire.read) (← Reader.counted 2)
    | 2 => return .relay (← Wire.read) (← Wire.read)
    | _ => Reader.fail (.unknownTag .redeemMode)

end RedeemMode

/-- What a sender asks for when staging a transfer. -/
inductive RedeemOption where
  | direct
  | payload (body : Bytes)
  | relay (gasDropoff : GasDropoff) (maxFee : Word 6)
  deriving DecidableEq, Repr

namespace RedeemOption

instance : Wire RedeemOption where
  write
    | .direct => Wire.tag 0
    | .payload body => Wire.tag 1 ++ Wire.writeCounted 4 body
    | .relay gasDropoff maxFee => Wire.tag 2 ++ Wire.write gasDropoff ++ Wire.write maxFee
  read := do
    match ← Reader.byte with
    | 0 => return .direct
    | 1 => return .payload (← Reader.counted 4)
    | 2 => return .relay (← Wire.read) (← Wire.read)
    | _ => Reader.fail (.unknownTag .redeemOption)

end RedeemOption
end SwapRelay
