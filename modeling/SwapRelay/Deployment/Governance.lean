import SwapRelay.Deployment.State
import SwapRelay.Message.Governance

/-!
# Governance batches

The owner registers peers and sets their terms by a batch of commands, all of it or nothing. A chain
that the batch names again is compared with what the batch has made of it.
-/

namespace SwapRelay.Deployment

variable {ρ : Type}

/-- The time limit of the endpoint's chain, which has to be free or to have the same address. -/
def timeLimitDuring (deployment : Deployment ρ) (staged : Table 2 Peer) (endpoint : Endpoint) :
    Except SwapError SwapTimeLimit :=
  match (staged.get? endpoint.chain).or (deployment.peers.get? endpoint.chain) with
  | some peer => do
    require (peer.address = endpoint.address) .invalidPeer
    return peer.terms.swapTimeLimit
  | none => return deployment.settings.swapTimeLimit

/-- Obeys one command of a batch. -/
def stageCommand (deployment : Deployment ρ) (staged : Table 2 Peer) :
    GovernanceCommand → Except SwapError (Table 2 Peer)
  | .updateEndpoint endpoint fees => do
    deployment.requireForeign endpoint.chain
    require (endpoint.address ≠ 0) .invalidPeer
    let terms := RelayTerms.ofFeeRecord fees (← deployment.timeLimitDuring staged endpoint)
    terms.verify
    return staged.insert endpoint.chain ⟨endpoint.chain, endpoint.address, terms⟩
  | .proposeEndpointUpdate _ => .error .unsupportedGovernanceCommand
  | .upgradeContract _ => .error .unsupportedGovernanceCommand
  | .proposeContractUpgrade _ => .error .unsupportedGovernanceCommand

def stageCommands (deployment : Deployment ρ) (commands : List GovernanceCommand) :
    Except SwapError (Table 2 Peer) :=
  commands.foldlM deployment.stageCommand .empty

def setPeer (peers : Table 2 Peer) (entry : ChainId × Peer) : Table 2 Peer :=
  peers.insert entry.1 entry.2

/-- Obeys a batch of commands, all of it or nothing. -/
def executeGovernance (signer : Address) (commands : List GovernanceCommand) :
    Action ρ Unit := do
  let deployment ← get
  (← deployment.requireCustodian).requireOwner signer
  let staged ← deployment.stageCommands commands
  set { deployment with peers := staged.entries.foldl setPeer deployment.peers }

end SwapRelay.Deployment
