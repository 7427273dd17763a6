import SwapRelay.Deployment.Governance
import SwapRelay.Deployment.Inbound
import SwapRelay.Deployment.Inquiry
import SwapRelay.Deployment.Outbound
import SwapRelay.Deployment.Peers
import SwapRelay.Deployment.Roles

/-!
# Operations and runs

Every way to change a deployment as one type, what each gives back, and runs of operations. Over the
in-memory router a run also contains the deliveries of fills.
-/

namespace SwapRelay

/-- An operation with its arguments. -/
inductive Operation where
  | install (owner assistant feeUpdater feeRecipient : Address)
  | submitOwnershipTransfer (signer newOwner : Address)
  | confirmOwnershipTransfer (signer : Address)
  | cancelOwnershipTransfer (signer : Address)
  | updateAssistant (signer assistant : Address)
  | updateFeeUpdater (signer feeUpdater : Address)
  | updateFeeRecipient (signer feeRecipient : Address)
  | addPeer (signer : Address) (chain : ChainId) (address : Address) (terms : RelayTerms)
  | updatePeer (signer : Address) (chain : ChainId) (address : Address) (terms : RelayTerms)
  | updateTerms (signer : Address) (chain : ChainId) (terms : RelayTerms)
  | applyFeeUpdates (signer : Address) (changes : List ChainFeeUpdate)
  | executeGovernance (signer : Address) (commands : List GovernanceCommand)
  | stageOutbound (request : StagingRequest)
  | closeStagedOutbound (sender : Address) (id : StagedId)
  | initiateTransfer (payer refundToken : Address) (id : StagedId)
  | completeDirect (recipient : Address) (id : FillId)
  | completeRelay (payer recipient : Address) (id : FillId) (now : Int64)
  | completePayload (stagedBy : Address) (id : FillId)
  | releaseInbound (recipient dstToken beneficiary : Address) (id : FillId)
  deriving DecidableEq, Repr

/-- What an operation gives back. -/
inductive Outcome where
  | done
  | staged (id : StagedId)
  | refunded (refund : Refund)
  | initiated (transfer : InitiatedTransfer)
  | paidDirect (payout : DirectPayout)
  | paidRelay (payout : RelayPayout)
  | released (released : ReleasedInbound)
  deriving DecidableEq, Repr

namespace Operation

variable {ρ : Type}

def action [TokenRouter ρ] : Operation → Action ρ Outcome
  | .install owner assistant feeUpdater feeRecipient => do
    Deployment.install owner assistant feeUpdater feeRecipient
    return .done
  | .submitOwnershipTransfer signer newOwner => do
    Deployment.submitOwnershipTransfer signer newOwner
    return .done
  | .confirmOwnershipTransfer signer => do
    Deployment.confirmOwnershipTransfer signer
    return .done
  | .cancelOwnershipTransfer signer => do
    Deployment.cancelOwnershipTransfer signer
    return .done
  | .updateAssistant signer assistant => do
    Deployment.updateAssistant signer assistant
    return .done
  | .updateFeeUpdater signer feeUpdater => do
    Deployment.updateFeeUpdater signer feeUpdater
    return .done
  | .updateFeeRecipient signer feeRecipient => do
    Deployment.updateFeeRecipient signer feeRecipient
    return .done
  | .addPeer signer chain address terms => do
    Deployment.addPeer signer chain address terms
    return .done
  | .updatePeer signer chain address terms => do
    Deployment.updatePeer signer chain address terms
    return .done
  | .updateTerms signer chain terms => do
    Deployment.updateTerms signer chain terms
    return .done
  | .applyFeeUpdates signer changes => do
    Deployment.applyFeeUpdates signer changes
    return .done
  | .executeGovernance signer commands => do
    Deployment.executeGovernance signer commands
    return .done
  | .stageOutbound request => return .staged (← Deployment.stageOutbound request)
  | .closeStagedOutbound sender id => return .refunded (← Deployment.closeStagedOutbound sender id)
  | .initiateTransfer payer refundToken id =>
    return .initiated (← Deployment.initiateTransfer payer refundToken id)
  | .completeDirect recipient id => return .paidDirect (← Deployment.completeDirect recipient id)
  | .completeRelay payer recipient id now =>
    return .paidRelay (← Deployment.completeRelay payer recipient id now)
  | .completePayload stagedBy id => do
    Deployment.completePayload stagedBy id
    return .done
  | .releaseInbound recipient dstToken beneficiary id =>
    return .released (← Deployment.releaseInbound recipient dstToken beneficiary id)

end Operation

namespace Deployment

variable {ρ : Type}

/-- The result of an action and the deployment that it leaves behind. -/
def perform {α : Type} (deployment : Deployment ρ) (action : Action ρ α) :
    Except SwapError α × Deployment ρ :=
  match action.run deployment with
  | .ok result after => (.ok result, after)
  | .error fault after => (.error fault, after)

def step [TokenRouter ρ] (deployment : Deployment ρ) (operation : Operation) :
    Except SwapError Outcome × Deployment ρ :=
  deployment.perform operation.action

end Deployment

/-- What can happen to a deployment over the in-memory router. -/
inductive Event where
  /-- Somebody asks for an operation, which may be refused. -/
  | asked (operation : Operation)
  /-- A fill arrives at the router. -/
  | delivered (id : FillId) (fill : Fill)
  deriving DecidableEq, Repr

namespace Deployment

def after (deployment : Deployment MemoryRouter) : Event → Deployment MemoryRouter
  | .asked operation => (deployment.step operation).2
  | .delivered id fill => { deployment with router := deployment.router.insertFill id fill }

def run (deployment : Deployment MemoryRouter) (events : List Event) : Deployment MemoryRouter :=
  events.foldl after deployment

/-- The deployments that a run of events leads to from a fresh one. -/
def Reachable (deployment : Deployment MemoryRouter) : Prop :=
  ∃ settings events, deployment = (fresh settings .empty).run events

end Deployment
end SwapRelay
