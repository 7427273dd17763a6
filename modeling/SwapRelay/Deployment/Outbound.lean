import SwapRelay.Deployment.State
import SwapRelay.Relay.Fee

/-!
# Transfers to other chains

A transfer is staged, which takes the amount into custody, and then either closed, which returns the
amount, or initiated, which hands it to the token router with a message for the peer. The relaying
fee is quoted when staging and again when initiating.
-/

namespace SwapRelay

/-- What is asked for when staging a transfer. -/
structure StagingRequest where
  /-- Pays for staging; no other account may initiate. -/
  payer : Address
  /-- The owner of the amount. -/
  sender : Address
  refundToken : Address
  amountIn : Word 8
  /-- Whether the relaying fee is taken out of the amount and not added to it. -/
  isExactIn : Bool
  targetChain : ChainId
  recipient : Address
  /-- Direct, if absent. -/
  redeemOption : Option RedeemOption
  /-- USDC, if absent. -/
  encodedOutputToken : Option Bytes
  deriving DecidableEq, Repr

/-- The amount that is returned when a staged transfer is closed. -/
structure Refund where
  sender : Address
  preparedBy : Address
  amount : Word 8
  deriving DecidableEq, Repr

/-- A transfer that has been handed to the token router. -/
structure InitiatedTransfer where
  order : OrderId
  amountIn : Word 8
  redeemerMessage : Bytes
  deriving DecidableEq, Repr

namespace StagingRequest

def outputToken (request : StagingRequest) : Except SwapError OutputToken :=
  match request.encodedOutputToken with
  | none => .ok .usdc
  | some encoded =>
    match Wire.decode OutputToken encoded with
    | .ok token => .ok token
    | .error _ => .error .invalidOutputToken

/-- The amount to take into custody for a relayed transfer. -/
def relayCustody (request : StagingRequest) (fee : Word 6) : Except SwapError (Word 8) :=
  if request.isExactIn then do
    require (fee.val < request.amountIn.val) .insufficientAmountIn
    return request.amountIn
  else within 8 (request.amountIn.val + fee.val)

/-- The amount to take into custody and the way to hand it out at the peer. -/
def redeemAt (request : StagingRequest) (overheads : GasOverheads) (terms : RelayTerms)
    (token : OutputToken) : Except SwapError (Word 8 × StagedRedeem) :=
  match request.redeemOption.getD .direct with
  | .direct => .ok (request.amountIn, .direct)
  | .payload body => do
    require (body.length ≤ RedeemMode.maxPayload) .payloadTooLarge
    return (request.amountIn, .payload body)
  | .relay gasDropoff maxFee => do
    require (gasDropoff.units ≤ terms.maxGasDropoff.units) .invalidGasDropoff
    let fee ← terms.relayerFee overheads gasDropoff token
    require (fee ≤ maxFee) .exceedsMaxRelayingFee
    let custody ← request.relayCustody fee
    return (custody, .relay gasDropoff (feeAmount fee) (feeAmount maxFee))

end StagingRequest

namespace Deployment

variable {ρ : Type}

/-- The record of a transfer that may be staged. -/
def stagedRecord (deployment : Deployment ρ) (request : StagingRequest) :
    Except SwapError StagedOutbound := do
  require (request.amountIn ≠ 0) .zeroAmountIn
  require (request.recipient ≠ 0) .invalidRecipient
  let peer ← deployment.requirePeer request.targetChain
  let outputToken ← request.outputToken
  let (custodyAmount, redeem) ←
    request.redeemAt deployment.settings.gasOverheads peer.terms outputToken
  return {
    preparedBy := request.payer
    sender := request.sender
    targetChain := request.targetChain
    recipient := request.recipient
    refundToken := request.refundToken
    redeem
    outputToken
    custodyAmount
  }

/-- Takes a transfer into custody under the next number. -/
def stageOutbound (request : StagingRequest) : Action ρ StagedId := do
  let deployment ← get
  let record ← deployment.stagedRecord request
  let id := deployment.nextStagedOutbound
  let next ← within 8 (id.val + 1)
  set { deployment with
    nextStagedOutbound := next
    stagedOutbound := deployment.stagedOutbound.insert id record }
  return id

def requireStagedOutbound (deployment : Deployment ρ) (id : StagedId) :
    Except SwapError StagedOutbound :=
  match deployment.stagedOutbound.get? id with
  | some staged => .ok staged
  | none => .error .stagedOutboundNotFound

def dropStagedOutbound (id : StagedId) : Action ρ Unit :=
  modify fun deployment =>
    { deployment with stagedOutbound := deployment.stagedOutbound.erase id }

/-- Returns the amount of a staged transfer to its sender. -/
def closeStagedOutbound (sender : Address) (id : StagedId) : Action ρ Refund := do
  let staged ← (← get).requireStagedOutbound id
  require (staged.sender = sender) .notStagedSender
  dropStagedOutbound id
  return ⟨sender, staged.preparedBy, staged.custodyAmount⟩

/-- Quotes the fee of a relayed transfer anew, by the peer's present terms. -/
def requote (deployment : Deployment ρ) (terms : RelayTerms) (staged : StagedOutbound) :
    Except SwapError StagedOutbound :=
  match staged.redeem with
  | .relay gasDropoff _ maxFee => do
    let fee ← terms.relayerFee deployment.settings.gasOverheads gasDropoff staged.outputToken
    require (fee.val ≤ maxFee.val) .exceedsMaxRelayingFee
    require (fee.val < staged.custodyAmount.val) .insufficientAmountIn
    return { staged with redeem := .relay gasDropoff (feeAmount fee) maxFee }
  | _ => .ok staged

def orderFor (deployment : Deployment ρ) (payer refundToken : Address) (id : StagedId) :
    Except SwapError MarketOrder := do
  let staged ← deployment.requireStagedOutbound id
  require (staged.preparedBy = payer) .preparedByMismatch
  require (staged.refundToken = refundToken) .invalidRefundToken
  let peer ← deployment.requirePeer staged.targetChain
  let requoted ← deployment.requote peer.terms staged
  return {
    amountIn := staged.custodyAmount
    targetChain := staged.targetChain
    redeemer := peer.address
    redeemerMessage := ← requoted.encodeMessage
    refundToken := staged.refundToken
  }

def prepareOrder [TokenRouter ρ] (order : MarketOrder) : Action ρ OrderId :=
  onRouter (TokenRouter.prepareMarketOrder order)

/-- Hands a staged transfer to the token router. -/
def initiateTransfer [TokenRouter ρ] (payer refundToken : Address) (id : StagedId) :
    Action ρ InitiatedTransfer := do
  let order ← (← get).orderFor payer refundToken id
  let number ← prepareOrder order
  dropStagedOutbound id
  return ⟨number, order.amountIn, order.redeemerMessage⟩

end Deployment
end SwapRelay
