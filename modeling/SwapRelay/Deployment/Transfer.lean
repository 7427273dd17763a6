import SwapRelay.Error
import SwapRelay.Message.SwapMessage

/-!
# Transfers held by a deployment

A transfer to another chain is staged before it is handed to the token router, and a received
transfer with a payload is staged until its recipient releases it.
-/

namespace SwapRelay

/-- How a staged transfer is to be handed out. -/
inductive StagedRedeem where
  | direct
  | payload (body : Bytes)
  /-- The fee is the one quoted when the transfer was staged; initiation quotes it anew. -/
  | relay (gasDropoff : GasDropoff) (fee maxFee : Word 8)
  deriving DecidableEq, Repr

/-- A transfer to another chain that waits to be initiated or closed. -/
structure StagedOutbound where
  /-- The account that paid for staging; no other may initiate. -/
  preparedBy : Address
  sender : Address
  targetChain : ChainId
  recipient : Address
  /-- Where the router returns the amount if the order is reverted. -/
  refundToken : Address
  redeem : StagedRedeem
  outputToken : OutputToken
  /-- The amount held, relaying fee included. -/
  custodyAmount : Word 8
  deriving DecidableEq, Repr

namespace StagedOutbound

def redeemMode (staged : StagedOutbound) : Except SwapError RedeemMode :=
  match staged.redeem with
  | .direct => .ok .direct
  | .payload body => do
    require (body.length ≤ RedeemMode.maxPayload) .payloadTooLarge
    return .payload staged.sender body
  | .relay gasDropoff fee _ =>
    match Word.ofNat? 6 fee.val with
    | some fee => .ok (.relay gasDropoff fee)
    | none => .error .relayerFeeOverflow

/-- The message for the deployment at the other end. -/
def toMessage (staged : StagedOutbound) : Except SwapError SwapMessage := do
  return ⟨staged.recipient, ← staged.redeemMode, staged.outputToken⟩

def encodeMessage (staged : StagedOutbound) : Except SwapError Bytes := do
  match (← staged.toMessage).encode with
  | .ok bytes => return bytes
  | .error fault => throw (.encodeFailed fault)

end StagedOutbound

/-- A received transfer that waits for its recipient. -/
structure StagedInbound where
  custodyAmount : Word 8
  /-- The account that completed the transfer. -/
  stagedBy : Address
  sourceChain : ChainId
  sender : Address
  recipient : Address
  /-- Whether the output is the native token. -/
  isNative : Bool
  payload : Bytes
  deriving DecidableEq, Repr

end SwapRelay
