import SwapRelay.Value.Address
import SwapRelay.Wire.Codec

/-!
# Queries

Read-only questions about a deployment. Some have no answer here and are read so that they can be
refused by name.
-/

namespace SwapRelay

/-- What is asked about a role or an endpoint. -/
inductive RoleAspect where
  | current
  | proposed
  | unlockTime
  deriving DecidableEq, Repr

namespace RoleAspect

def tag : RoleAspect → UInt8
  | .current => 0
  | .proposed => 1
  | .unlockTime => 2

instance : Wire RoleAspect where
  write aspect := Wire.tag aspect.tag
  read := do
    match ← Reader.byte with
    | 0 => return .current
    | 1 => return .proposed
    | 2 => return .unlockTime
    | _ => Reader.fail (.unknownTag .roleAspect)

end RoleAspect

/-- A setting that is fixed when a contract is deployed. -/
inductive ImmutableSetting where
  | wormhole
  | usdc
  | weth
  | permit2
  | uniswapRouter
  | liquidityLayer
  | majorDelay
  | minorDelay
  deriving DecidableEq, Repr

namespace ImmutableSetting

def tag : ImmutableSetting → UInt8
  | .wormhole => 0
  | .usdc => 1
  | .weth => 2
  | .permit2 => 3
  | .uniswapRouter => 4
  | .liquidityLayer => 5
  | .majorDelay => 6
  | .minorDelay => 7

instance : Wire ImmutableSetting where
  write setting := Wire.tag setting.tag
  read := do
    match ← Reader.byte with
    | 0 => return .wormhole
    | 1 => return .usdc
    | 2 => return .weth
    | 3 => return .permit2
    | 4 => return .uniswapRouter
    | 5 => return .liquidityLayer
    | 6 => return .majorDelay
    | 7 => return .minorDelay
    | _ => Reader.fail (.unknownTag .immutableSetting)

end ImmutableSetting

/-- A question about a deployment. -/
inductive Query where
  /-- The prices and margins for a chain. -/
  | feeRecord (chain : ChainId)
  /-- The registered deployment on a chain. -/
  | endpoint (aspect : RoleAspect) (chain : ChainId)
  | immutableSetting (setting : ImmutableSetting)
  | adminCanUpgrade
  | assistant
  | owner (aspect : RoleAspect)
  | admin (aspect : RoleAspect)
  | feeRecipient (aspect : RoleAspect)
  | implementation (aspect : RoleAspect)
  deriving DecidableEq, Repr

namespace Query

instance : Wire Query where
  write
    | .feeRecord chain => Wire.tag 0 ++ Wire.write chain
    | .endpoint aspect chain => Wire.tag 1 ++ Wire.write aspect ++ Wire.write chain
    | .immutableSetting setting => Wire.tag 2 ++ Wire.write setting
    | .adminCanUpgrade => Wire.tag 3
    | .assistant => Wire.tag 4
    | .owner aspect => Wire.tag 5 ++ Wire.write aspect
    | .admin aspect => Wire.tag 6 ++ Wire.write aspect
    | .feeRecipient aspect => Wire.tag 7 ++ Wire.write aspect
    | .implementation aspect => Wire.tag 8 ++ Wire.write aspect
  read := do
    match ← Reader.byte with
    | 0 => return .feeRecord (← Wire.read)
    | 1 => return .endpoint (← Wire.read) (← Wire.read)
    | 2 => return .immutableSetting (← Wire.read)
    | 3 => return .adminCanUpgrade
    | 4 => return .assistant
    | 5 => return .owner (← Wire.read)
    | 6 => return .admin (← Wire.read)
    | 7 => return .feeRecipient (← Wire.read)
    | 8 => return .implementation (← Wire.read)
    | _ => Reader.fail (.unknownTag .query)

end Query
end SwapRelay
