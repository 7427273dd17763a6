import SwapRelay.Deployment.State

/-!
# Peers

Registering a peer and changing its relay terms, one peer at a time or by a batch of changes. In a
batch the changes of a chain apply one after the other, and only the outcome has to be acceptable.
-/

namespace SwapRelay

/-- Relay terms that a batch has changed so far, by chain. -/
abbrev StagedTerms := Table 2 RelayTerms

namespace Deployment

variable {ρ : Type}

/-- Registers a peer on a chain that has none. -/
def addPeer (signer : Address) (chain : ChainId) (address : Address) (terms : RelayTerms) :
    Action ρ Unit := do
  let deployment ← get
  (← deployment.requireCustodian).requireAdmin signer
  deployment.requireForeign chain
  require (address ≠ 0) .invalidPeer
  terms.verify
  require (deployment.peers.get? chain).isNone .peerAlreadyExists
  set { deployment with peers := deployment.peers.insert chain ⟨chain, address, terms⟩ }

/-- Sets the terms of the peer with the given address. -/
def updatePeer (signer : Address) (chain : ChainId) (address : Address) (terms : RelayTerms) :
    Action ρ Unit := do
  let deployment ← get
  (← deployment.requireCustodian).requireOwner signer
  terms.verify
  let peer ← deployment.requirePeer chain
  require (peer.address = address) .invalidPeer
  set { deployment with peers := deployment.peers.insert chain { peer with terms } }

def updateTerms (signer : Address) (chain : ChainId) (terms : RelayTerms) : Action ρ Unit := do
  let deployment ← get
  (← deployment.requireCustodian).requireFeeUpdater signer
  terms.verify
  let peer ← deployment.requirePeer chain
  set { deployment with peers := deployment.peers.insert chain { peer with terms } }

/-- The terms of a chain as the batch has left them so far. -/
def termsDuring (deployment : Deployment ρ) (staged : StagedTerms) (chain : ChainId) :
    Except SwapError RelayTerms :=
  match staged.get? chain with
  | some terms => .ok terms
  | none => do return (← deployment.requirePeer chain).terms

def stageFeeUpdate (deployment : Deployment ρ) (staged : StagedTerms) (change : ChainFeeUpdate) :
    Except SwapError StagedTerms := do
  let terms ← deployment.termsDuring staged change.chain
  return staged.insert change.chain (← terms.apply change.update)

def stageFeeUpdates (deployment : Deployment ρ) (changes : List ChainFeeUpdate) :
    Except SwapError StagedTerms := do
  let staged ← changes.foldlM deployment.stageFeeUpdate .empty
  staged.values.forM RelayTerms.verify
  return staged

def setTerms (peers : Table 2 Peer) (entry : ChainId × RelayTerms) : Table 2 Peer :=
  match peers.get? entry.1 with
  | some peer => peers.insert entry.1 { peer with terms := entry.2 }
  | none => peers

/-- Changes relay terms by a batch, all of it or nothing. -/
def applyFeeUpdates (signer : Address) (changes : List ChainFeeUpdate) : Action ρ Unit := do
  let deployment ← get
  (← deployment.requireCustodian).requireFeeUpdater signer
  let staged ← deployment.stageFeeUpdates changes
  set { deployment with peers := staged.entries.foldl setTerms deployment.peers }

end Deployment
end SwapRelay
