import SwapRelay.Deployment.Custodian
import SwapRelay.Deployment.Router
import SwapRelay.Deployment.Transfer
import SwapRelay.Settings.Basic

/-!
# Deployments

The state of a deployment on one chain, over a token router, and the actions that change it. An
action that is refused reports the state in which it stopped, so that "a refused operation changes
nothing" is a statement about actions and not a matter of their type.
-/

namespace SwapRelay

/-- A registered deployment on another chain. -/
structure Peer where
  chain : ChainId
  /-- Never changes once registered. -/
  address : Address
  terms : RelayTerms
  deriving DecidableEq, Repr

/-- The number of a staged transfer. -/
abbrev StagedId := Word 8

/-- A deployment over a token router. -/
structure Deployment (ρ : Type) where
  settings : Settings
  custodian : Option Custodian
  peers : Table 2 Peer
  stagedOutbound : Table 8 StagedOutbound
  stagedInbound : Table 32 StagedInbound
  nextStagedOutbound : StagedId
  router : ρ
  deriving DecidableEq, Repr

/-- An operation: it changes a deployment and gives a result, or stops with an error. -/
abbrev Action (ρ : Type) := EStateM SwapError (Deployment ρ)

namespace Deployment

variable {ρ : Type}

/-- A deployment that nobody has taken charge of yet. -/
def fresh (settings : Settings) (router : ρ) : Deployment ρ where
  settings := settings
  custodian := none
  peers := .empty
  stagedOutbound := .empty
  stagedInbound := .empty
  nextStagedOutbound := 0
  router := router

/-- Calls the router, and goes on with the router that the call leaves behind. -/
def onRouter {α : Type} (call : RouterAction ρ α) : Action ρ α := fun deployment =>
  match call.run deployment.router with
  | .ok result router => .ok result { deployment with router }
  | .error fault router => .error fault { deployment with router }

def requireCustodian (deployment : Deployment ρ) : Except SwapError Custodian :=
  match deployment.custodian with
  | some custodian => .ok custodian
  | none => .error .notInitialized

def requirePeer (deployment : Deployment ρ) (chain : ChainId) : Except SwapError Peer :=
  match deployment.peers.get? chain with
  | some peer => .ok peer
  | none => .error .notInitialized

/-- A peer is on a chain with a number of its own that is not the local one. -/
def requireForeign (deployment : Deployment ρ) (chain : ChainId) : Except SwapError Unit :=
  require (chain ≠ 0 ∧ chain ≠ deployment.settings.chain) .chainNotAllowed

end Deployment
end SwapRelay
