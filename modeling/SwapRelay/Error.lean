import SwapRelay.Wire.Error
import SwapRelay.Wire.Word

/-!
# Refusals

The causes for which a deployment refuses an operation, with the name and the wording of each. Some of
them say that a record is missing, spent or already there.
-/

namespace SwapRelay

/-- Why an operation is refused. -/
inductive SwapError where
  /-- The message of a fill cannot be read. -/
  | invalidSwapMessage
  | encodeFailed (fault : EncodeError)
  | chainNotAllowed
  | invalidPeer
  | invalidBaseFee
  | invalidNativeTokenPrice
  | invalidMargin
  | invalidGasPrice
  | invalidGasDropoff
  | gasDropoffTooHigh
  | exceedsMaxRelayingFee
  | relayingDisabled
  | invalidRecipient
  | invalidOutputToken
  | invalidRedeemMode
  | swapTimeLimitNotExceeded
  | zeroAmountIn
  | insufficientAmountIn
  | payloadTooLarge
  | invalidRelayerFee
  | unsupportedFillKind
  | unsupportedSwapVenue
  | unsupportedExecutionEnvironment
  | invalidRefundToken
  | preparedByMismatch
  | assistantZero
  | feeUpdaterZero
  | feeRecipientZero
  | newOwnerZero
  | alreadyOwner
  | notPendingOwner
  | unsupportedGovernanceCommand
  | unsupportedQuery
  | unsupportedFeeUpdate
  /-- An amount does not fit eight bytes. -/
  | amountOverflow
  /-- A relayer fee does not fit six bytes. -/
  | relayerFeeOverflow
  | notInitialized
  | alreadyInitialized
  | peerAlreadyExists
  | stagedOutboundNotFound
  | stagedInboundNotFound
  | fillNotFound
  | ownerOnly
  | ownerOrAssistantOnly
  | invalidFeeUpdater
  | notStagedSender
  /-- The token router refused, for a reason of its own. -/
  | tokenRouter (reason : String)
  deriving DecidableEq, Repr

namespace SwapError

/-- The name under which the refusal is reported. -/
def name : SwapError → String
  | .invalidSwapMessage => "InvalidSwapMessage"
  | .encodeFailed _ => "EncodeFailed"
  | .chainNotAllowed => "ChainNotAllowed"
  | .invalidPeer => "InvalidPeer"
  | .invalidBaseFee => "InvalidBaseFee"
  | .invalidNativeTokenPrice => "InvalidNativeTokenPrice"
  | .invalidMargin => "InvalidMargin"
  | .invalidGasPrice => "InvalidGasPrice"
  | .invalidGasDropoff => "InvalidGasDropoff"
  | .gasDropoffTooHigh => "GasDropoffTooHigh"
  | .exceedsMaxRelayingFee => "ExceedsMaxRelayingFee"
  | .relayingDisabled => "RelayingDisabled"
  | .invalidRecipient => "InvalidRecipient"
  | .invalidOutputToken => "InvalidOutputToken"
  | .invalidRedeemMode => "InvalidRedeemMode"
  | .swapTimeLimitNotExceeded => "SwapTimeLimitNotExceeded"
  | .zeroAmountIn => "ZeroAmountIn"
  | .insufficientAmountIn => "InsufficientAmountIn"
  | .payloadTooLarge => "PayloadTooLarge"
  | .invalidRelayerFee => "InvalidRelayerFee"
  | .unsupportedFillKind => "UnsupportedFillType"
  | .unsupportedSwapVenue => "UnsupportedSwapType"
  | .unsupportedExecutionEnvironment => "UnsupportedExecutionEnvironment"
  | .invalidRefundToken => "InvalidRefundToken"
  | .preparedByMismatch => "PreparedByMismatch"
  | .assistantZero => "AssistantZeroPubkey"
  | .feeUpdaterZero => "FeeUpdaterZeroPubkey"
  | .feeRecipientZero => "FeeRecipientZeroPubkey"
  | .newOwnerZero => "InvalidNewOwner"
  | .alreadyOwner => "AlreadyOwner"
  | .notPendingOwner => "NotPendingOwner"
  | .unsupportedGovernanceCommand => "UnsupportedGovernanceCommand"
  | .unsupportedQuery => "UnsupportedQuery"
  | .unsupportedFeeUpdate => "UnsupportedFeeParamUpdate"
  | .amountOverflow => "U64Overflow"
  | .relayerFeeOverflow => "RelayerFeeOverflow"
  | .notInitialized => "AccountNotInitialized"
  | .alreadyInitialized => "AlreadyInitialized"
  | .peerAlreadyExists => "PeerAlreadyExists"
  | .stagedOutboundNotFound => "StagedOutboundNotFound"
  | .stagedInboundNotFound => "StagedInboundNotFound"
  | .fillNotFound => "PreparedFillNotFound"
  | .ownerOnly => "OwnerOnly"
  | .ownerOrAssistantOnly => "OwnerOrAssistantOnly"
  | .invalidFeeUpdater => "InvalidFeeUpdater"
  | .notStagedSender => "NotStagedSender"
  | .tokenRouter _ => "TokenRouter"

def message : SwapError → String
  | .invalidSwapMessage => "redeemer message is not a valid swap message"
  | .encodeFailed fault => "failed to encode: " ++ fault.message
  | .chainNotAllowed => "chain is not allowed"
  | .invalidPeer => "invalid peer"
  | .invalidBaseFee => "base fee must be nonzero"
  | .invalidNativeTokenPrice => "native token price must be nonzero"
  | .invalidMargin => "margin exceeds 100%"
  | .invalidGasPrice => "gas price must be nonzero"
  | .invalidGasDropoff => "gas dropoff exceeds maximum"
  | .gasDropoffTooHigh => "gas dropoff exceeds the peer's maximum"
  | .exceedsMaxRelayingFee => "relaying fee exceeds the specified maximum"
  | .relayingDisabled => "relaying is disabled for this peer"
  | .invalidRecipient => "invalid recipient"
  | .invalidOutputToken => "invalid output token"
  | .invalidRedeemMode => "invalid redeem mode"
  | .swapTimeLimitNotExceeded => "swap time limit not exceeded"
  | .zeroAmountIn => "amount in must be nonzero"
  | .insufficientAmountIn => "amount in does not cover the relaying fee"
  | .payloadTooLarge => "payload too large"
  | .invalidRelayerFee => "relayer fee exceeds the fill amount"
  | .unsupportedFillKind => "unsupported fill type"
  | .unsupportedSwapVenue => "unsupported swap type"
  | .unsupportedExecutionEnvironment => "unsupported execution environment"
  | .invalidRefundToken => "refund token does not match staged outbound"
  | .preparedByMismatch => "payer did not prepare staged outbound"
  | .assistantZero => "assistant cannot be zero address"
  | .feeUpdaterZero => "fee updater cannot be zero address"
  | .feeRecipientZero => "fee recipient cannot be zero address"
  | .newOwnerZero => "new owner cannot be zero address"
  | .alreadyOwner => "already the owner"
  | .notPendingOwner => "not the pending owner"
  | .unsupportedGovernanceCommand => "unsupported governance command"
  | .unsupportedQuery => "unsupported query"
  | .unsupportedFeeUpdate => "unsupported fee parameter update"
  | .amountOverflow => "u64 overflow"
  | .relayerFeeOverflow => "relayer fee does not fit 48 bits"
  | .notInitialized => "account not initialized"
  | .alreadyInitialized => "already initialized"
  | .peerAlreadyExists => "peer already exists"
  | .stagedOutboundNotFound => "staged outbound not found"
  | .stagedInboundNotFound => "staged inbound not found"
  | .fillNotFound => "prepared fill not found"
  | .ownerOnly => "owner only"
  | .ownerOrAssistantOnly => "owner or assistant only"
  | .invalidFeeUpdater => "invalid fee updater"
  | .notStagedSender => "signer is not the staged sender"
  | .tokenRouter reason => "token router: " ++ reason

/-- A record is missing, spent or already there, so that trying again is of no use. -/
def isStateError : SwapError → Bool
  | .notInitialized | .alreadyInitialized | .peerAlreadyExists | .stagedOutboundNotFound
  | .stagedInboundNotFound | .fillNotFound => true
  | _ => false

end SwapError

def require (condition : Prop) [Decidable condition] (fault : SwapError) :
    Except SwapError Unit :=
  if condition then .ok () else .error fault

@[simp] theorem require_eq_ok_iff {condition : Prop} [Decidable condition] {fault : SwapError}
    {u : Unit} : require condition fault = .ok u ↔ condition := by
  unfold require
  split <;> simp_all

/-- Refuses a number that does not fit `n` bytes. -/
def within (n value : Nat) : Except SwapError (Word n) :=
  match Word.ofNat? n value with
  | some word => .ok word
  | none => .error .amountOverflow

/-- A check that fails stops the action where it stands. -/
instance {σ : Type} : MonadLift (Except SwapError) (EStateM SwapError σ) where
  monadLift
    | .ok a => pure a
    | .error fault => throw fault

end SwapRelay
