import SwapRelay.Message.FeeRecord

/-!
# Governance commands

The commands that an owner sends in batches. Only the update of an endpoint is obeyed here; the
others belong to deployments on EVM chains and are read so that they can be refused by name.
-/

namespace SwapRelay

/-- A deployment's address on its chain. -/
structure Endpoint where
  chain : ChainId
  address : Address
  deriving DecidableEq, Repr

namespace Endpoint

instance : Wire Endpoint where
  write endpoint := Wire.write endpoint.chain ++ Wire.write endpoint.address
  read := return ⟨← Wire.read, ← Wire.read⟩

end Endpoint

/-- A command of a governance batch. -/
inductive GovernanceCommand where
  | updateEndpoint (endpoint : Endpoint) (fees : FeeRecord)
  | proposeEndpointUpdate (endpoint : Endpoint)
  | upgradeContract (implementation : EvmAddress)
  | proposeContractUpgrade (implementation : EvmAddress)
  deriving DecidableEq, Repr

namespace GovernanceCommand

instance : Wire GovernanceCommand where
  write
    | .updateEndpoint endpoint fees => Wire.tag 0 ++ Wire.write endpoint ++ Wire.write fees
    | .proposeEndpointUpdate endpoint => Wire.tag 1 ++ Wire.write endpoint
    | .upgradeContract implementation => Wire.tag 6 ++ Wire.write implementation
    | .proposeContractUpgrade implementation => Wire.tag 7 ++ Wire.write implementation
  read := do
    match ← Reader.byte with
    | 0 => return .updateEndpoint (← Wire.read) (← Wire.read)
    | 1 => return .proposeEndpointUpdate (← Wire.read)
    | 6 => return .upgradeContract (← Wire.read)
    | 7 => return .proposeContractUpgrade (← Wire.read)
    | _ => Reader.fail (.unknownTag .governanceCommand)

end GovernanceCommand
end SwapRelay
