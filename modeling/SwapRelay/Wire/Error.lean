/-!
# Faults of reading and writing

The causes for which bytes are refused and values cannot be written, with the wording of each.
-/

namespace SwapRelay

/-- The records that begin with a tag byte. -/
inductive TaggedRecord where
  | redeemMode
  | redeemOption
  | outputToken
  | swapVenue
  | feeUpdate
  | governanceCommand
  | query
  | roleAspect
  | immutableSetting
  deriving DecidableEq, Repr

def TaggedRecord.name : TaggedRecord → String
  | .redeemMode => "RedeemMode"
  | .redeemOption => "RedeemOption"
  | .outputToken => "OutputToken"
  | .swapVenue => "SwapType"
  | .feeUpdate => "FeeParamUpdate"
  | .governanceCommand => "GovernanceCommand"
  | .query => "Query"
  | .roleAspect => "SubQuery"
  | .immutableSetting => "ImmutableType"

/-- Why bytes are not the written form of a value. -/
inductive DecodeError where
  /-- The bytes end inside the value. -/
  | endOfInput
  /-- Bytes are left over after the value. -/
  | trailingBytes
  /-- The message is of another version. -/
  | unknownVersion
  | unknownTag (record : TaggedRecord)
  /-- A presence flag is neither 0 nor 1. -/
  | invalidFlag
  | percentageTooLarge
  | gasTokenPriceTooLarge
  deriving DecidableEq, Repr

def DecodeError.message : DecodeError → String
  | .endOfInput => "failed to fill whole buffer"
  | .trailingBytes => "trailing bytes"
  | .unknownVersion => "Invalid payload type"
  | .unknownTag record => "Invalid " ++ record.name
  | .invalidFlag => "invalid bool value"
  | .percentageTooLarge => "Percentage exceeds 100"
  | .gasTokenPriceTooLarge => "Gas token price exceeds u64"

/-- Why a value has no written form. -/
inductive EncodeError where
  | swapPathTooLong
  /-- A byte string is longer than its length field can say. -/
  | lengthTooLarge
  | batchTooLarge
  deriving DecidableEq, Repr

def EncodeError.message : EncodeError → String
  | .swapPathTooLong => "Swap path too long"
  | .lengthTooLarge => "L overflow when converting from usize"
  | .batchTooLarge => "batch too large"

end SwapRelay
