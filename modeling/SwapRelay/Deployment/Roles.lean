import SwapRelay.Deployment.State

/-!
# Roles

Taking charge of a deployment, passing its ownership on in two steps, and naming the assistant, the
fee updater and the fee recipient.
-/

namespace SwapRelay.Deployment

variable {ρ : Type}

/-- Names the accounts in charge, once. -/
def install (owner assistant feeUpdater feeRecipient : Address) : Action ρ Unit := do
  let deployment ← get
  require deployment.custodian.isNone .alreadyInitialized
  require (owner ≠ 0) .newOwnerZero
  require (assistant ≠ 0) .assistantZero
  require (feeUpdater ≠ 0) .feeUpdaterZero
  require (feeRecipient ≠ 0) .feeRecipientZero
  set { deployment with
    custodian := some { owner, pendingOwner := none, assistant, feeUpdater, feeRecipient } }

def setCustodian (custodian : Custodian) : Action ρ Unit :=
  modify fun deployment => { deployment with custodian := some custodian }

/-- The owner names a successor. -/
def submitOwnershipTransfer (signer newOwner : Address) : Action ρ Unit := do
  let custodian ← (← get).requireCustodian
  custodian.requireOwner signer
  require (newOwner ≠ 0) .newOwnerZero
  require (newOwner ≠ custodian.owner) .alreadyOwner
  setCustodian { custodian with pendingOwner := some newOwner }

/-- The named successor becomes the owner. -/
def confirmOwnershipTransfer (signer : Address) : Action ρ Unit := do
  let custodian ← (← get).requireCustodian
  require (custodian.pendingOwner = some signer) .notPendingOwner
  setCustodian { custodian with owner := signer, pendingOwner := none }

/-- The owner takes the naming of a successor back. -/
def cancelOwnershipTransfer (signer : Address) : Action ρ Unit := do
  let custodian ← (← get).requireCustodian
  custodian.requireOwner signer
  setCustodian { custodian with pendingOwner := none }

def updateAssistant (signer assistant : Address) : Action ρ Unit := do
  let custodian ← (← get).requireCustodian
  custodian.requireOwner signer
  require (assistant ≠ 0) .assistantZero
  setCustodian { custodian with assistant }

/-- The owner or the assistant names the fee updater. -/
def updateFeeUpdater (signer feeUpdater : Address) : Action ρ Unit := do
  let custodian ← (← get).requireCustodian
  custodian.requireAdmin signer
  require (feeUpdater ≠ 0) .feeUpdaterZero
  setCustodian { custodian with feeUpdater }

/-- The owner or the assistant names the fee recipient. -/
def updateFeeRecipient (signer feeRecipient : Address) : Action ρ Unit := do
  let custodian ← (← get).requireCustodian
  custodian.requireAdmin signer
  require (feeRecipient ≠ 0) .feeRecipientZero
  setCustodian { custodian with feeRecipient }

end SwapRelay.Deployment
