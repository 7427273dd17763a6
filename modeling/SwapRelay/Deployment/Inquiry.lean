import SwapRelay.Deployment.State
import SwapRelay.Message.Query

/-!
# Inquiries

Answers to queries, each 32 bytes long. A batch of queries is answered by the answers one after the
other, or by the error of the first query that has none.
-/

namespace SwapRelay.Deployment

variable {ρ : Type} (deployment : Deployment ρ)

/-- The prices and margins for a chain; everything is zero if there is no peer. -/
def feeRecord (chain : ChainId) : Except SwapError FeeRecord :=
  match deployment.peers.get? chain with
  | some peer => peer.terms.toFeeRecord
  | none => .ok .zero

/-- The address of the peer on a chain, or zero. -/
def endpointAddress (chain : ChainId) : Address :=
  match deployment.peers.get? chain with
  | some peer => peer.address
  | none => 0

def encodeFeeRecord (record : FeeRecord) : Except SwapError Bytes :=
  match Wire.write record with
  | .ok bytes => .ok bytes
  | .error fault => .error (.encodeFailed fault)

def answer : Query → Except SwapError Bytes
  | .feeRecord chain => do encodeFeeRecord (← deployment.feeRecord chain)
  | .endpoint .current chain => return (deployment.endpointAddress chain).toBytes
  | .assistant => return (← deployment.requireCustodian).assistant.toBytes
  | .owner .current => return (← deployment.requireCustodian).owner.toBytes
  | .owner .proposed => return ((← deployment.requireCustodian).pendingOwner.getD 0).toBytes
  | .feeRecipient .current => return (← deployment.requireCustodian).feeRecipient.toBytes
  | _ => .error .unsupportedQuery

/-- The answers to a batch of queries, one after the other. -/
def answers (queries : List Query) : Except SwapError Bytes := do
  return (← queries.mapM deployment.answer).flatten

end SwapRelay.Deployment
