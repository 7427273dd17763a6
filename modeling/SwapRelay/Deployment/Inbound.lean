import SwapRelay.Deployment.State
import SwapRelay.Relay.Fee

/-!
# Transfers from other chains

A fill that the token router holds is completed in the way its message asks for: the recipient
collects it, a relayer pays the recipient out, or it is staged with its payload until the recipient
releases it. The message counts only if the registered peer on the fill's chain sent it.
-/

namespace SwapRelay

/-- What a recipient collects. -/
structure DirectPayout where
  recipient : Address
  amount : Word 8
  deriving DecidableEq, Repr

/-- What a relayer pays out and receives. -/
structure RelayPayout where
  recipient : Address
  userAmount : Word 8
  /-- Native gas from the relayer for the recipient, in its smallest units. -/
  gasDropoff : Nat
  feeRecipient : Address
  fee : Word 8
  deriving DecidableEq, Repr

/-- What a program collects together with its payload. -/
structure ReleasedInbound where
  dstToken : Address
  amount : Word 8
  beneficiary : Address
  sourceChain : ChainId
  sender : Address
  payload : Bytes
  deriving DecidableEq, Repr

/-- A fill whose message has been read and whose sender is known. -/
structure PeerFill where
  fill : Fill
  peer : Peer
  message : SwapMessage
  deriving DecidableEq, Repr

namespace PeerFill

/-- The seconds since the fill was prepared, within the range of times. -/
def elapsed (received : PeerFill) (now : Int64) : Int :=
  max Int64.minValue.toInt
    (min Int64.maxValue.toInt (now.toInt - received.fill.timestamp.toInt))

/-- The seconds that have to pass before the swap may be skipped. -/
def timeLimit (received : PeerFill) : Except SwapError (Word 4) :=
  match received.fill.kind with
  | .fastFill => .ok received.peer.terms.swapTimeLimit.fast
  | .cctpDeposit => .ok received.peer.terms.swapTimeLimit.finalized
  | .unset => .error .unsupportedFillKind

/-- USDC may be paid out if no swap was asked for or the time for it has passed. -/
def requirePayable (received : PeerFill) (now : Int64) : Except SwapError Unit :=
  match received.message.outputToken.swap? with
  | none => .ok ()
  | some _ => do
    let limit ← received.timeLimit
    require ((limit.val : Int) ≤ received.elapsed now) .swapTimeLimitNotExceeded

def requireDirect (received : PeerFill) (recipient : Address) : Except SwapError Unit := do
  require (received.message.redeemMode = .direct) .invalidRedeemMode
  require (received.message.outputToken = .usdc) .invalidOutputToken
  require (received.message.recipient = recipient) .invalidRecipient

def relayTo (received : PeerFill) (recipient : Address) :
    Except SwapError (GasDropoff × Word 6) :=
  match received.message.redeemMode with
  | .relay gasDropoff fee => do
    require (received.message.recipient = recipient) .invalidRecipient
    return (gasDropoff, fee)
  | _ => .error .invalidRedeemMode

def payload (received : PeerFill) : Except SwapError (Address × Bytes) :=
  match received.message.redeemMode with
  | .payload sender body => do
    require (received.message.outputToken = .usdc) .invalidOutputToken
    return (sender, body)
  | _ => .error .invalidRedeemMode

end PeerFill

namespace Deployment

variable {ρ : Type}

def readFill [TokenRouter ρ] (deployment : Deployment ρ) (id : FillId) :
    Except SwapError PeerFill :=
  match TokenRouter.fill? deployment.router id with
  | none => .error .fillNotFound
  | some fill =>
    match SwapMessage.decode fill.redeemerMessage with
    | .error _ => .error .invalidSwapMessage
    | .ok message =>
      match deployment.peers.get? fill.sourceChain with
      | none => .error .invalidPeer
      | some peer => do
        require (peer.address = fill.orderSender) .invalidPeer
        return ⟨fill, peer, message⟩

def consumeFill [TokenRouter ρ] (id : FillId) : Action ρ (Word 8) :=
  onRouter (TokenRouter.consumeFill id)

def completeDirect [TokenRouter ρ] (recipient : Address) (id : FillId) :
    Action ρ DirectPayout := do
  let received ← (← get).readFill id
  received.requireDirect recipient
  return ⟨recipient, ← consumeFill id⟩

/-- The fee recipient, the drop-off and the fee of a fill that may be paid out now. -/
def payableRelay [TokenRouter ρ] (deployment : Deployment ρ) (payer recipient : Address)
    (id : FillId) (now : Int64) : Except SwapError (Address × GasDropoff × Word 6) := do
  let received ← deployment.readFill id
  let (gasDropoff, fee) ← received.relayTo recipient
  received.requirePayable now
  require (payer = recipient ∨ fee.val ≤ received.fill.amount.val) .invalidRelayerFee
  return ((← deployment.requireCustodian).feeRecipient, gasDropoff, fee)

/-- A relayer pays the recipient out, or the recipient collects the fill without a fee. The amount
that the router hands over may fall short of the fee, which stops the action with the fill consumed;
the in-memory router hands over what it announced. -/
def completeRelay [TokenRouter ρ] (payer recipient : Address) (id : FillId) (now : Int64) :
    Action ρ RelayPayout := do
  let (feeRecipient, gasDropoff, fee) ← (← get).payableRelay payer recipient id now
  let custody ← consumeFill id
  if payer = recipient then
    return ⟨recipient, custody, 0, feeRecipient, 0⟩
  else do
    require (fee.val ≤ custody.val) .invalidRelayerFee
    let userAmount ← within 8 (custody.val - fee.val)
    return ⟨recipient, userAmount, gasDropoff.wei, feeRecipient, feeAmount fee⟩

def unstagedPayload [TokenRouter ρ] (deployment : Deployment ρ) (id : FillId) :
    Except SwapError (PeerFill × Address × Bytes) := do
  let received ← deployment.readFill id
  let (sender, body) ← received.payload
  require (deployment.stagedInbound.get? id).isNone .alreadyInitialized
  return (received, sender, body)

/-- Stages a fill with a payload for its recipient. -/
def completePayload [TokenRouter ρ] (stagedBy : Address) (id : FillId) : Action ρ Unit := do
  let (received, sender, body) ← (← get).unstagedPayload id
  let custodyAmount ← consumeFill id
  modify fun deployment => { deployment with
    stagedInbound := deployment.stagedInbound.insert id {
      custodyAmount
      stagedBy
      sourceChain := received.fill.sourceChain
      sender
      recipient := received.message.recipient
      isNative := false
      payload := body
    } }

def requireStagedInbound (deployment : Deployment ρ) (id : FillId) :
    Except SwapError StagedInbound :=
  match deployment.stagedInbound.get? id with
  | some staged => .ok staged
  | none => .error .stagedInboundNotFound

/-- The recipient collects a staged transfer with its payload. -/
def releaseInbound (recipient dstToken beneficiary : Address) (id : FillId) :
    Action ρ ReleasedInbound := do
  let deployment ← get
  let staged ← deployment.requireStagedInbound id
  require (staged.recipient = recipient) .invalidRecipient
  set { deployment with stagedInbound := deployment.stagedInbound.erase id }
  return ⟨dstToken, staged.custodyAmount, beneficiary, staged.sourceChain, staged.sender,
    staged.payload⟩

end Deployment
end SwapRelay
