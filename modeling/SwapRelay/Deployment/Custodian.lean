import SwapRelay.Error
import SwapRelay.Value.Address

/-!
# Custodians

Who may do what to a deployment. The owner may do everything, the assistant registers peers and
names the fee updater and the fee recipient, and the fee updater changes relay terms. Ownership
passes in two steps: the owner names a successor, who then confirms.
-/

namespace SwapRelay

/-- The accounts that administer a deployment. -/
structure Custodian where
  owner : Address
  pendingOwner : Option Address
  assistant : Address
  feeUpdater : Address
  /-- The account that collects relayer fees. -/
  feeRecipient : Address
  deriving DecidableEq, Repr

namespace Custodian

variable (custodian : Custodian) (signer : Address)

def requireOwner : Except SwapError Unit := require (signer = custodian.owner) .ownerOnly

def requireAdmin : Except SwapError Unit :=
  require (signer = custodian.owner ∨ signer = custodian.assistant) .ownerOrAssistantOnly

def requireFeeUpdater : Except SwapError Unit :=
  require
    (signer = custodian.feeUpdater ∨ signer = custodian.owner ∨ signer = custodian.assistant)
    .invalidFeeUpdater

end Custodian
end SwapRelay
