import SwapRelay.Proofs.AdministrativeRecords

/-!
# Strictness

Bytes that are accepted can be neither cut short nor continued. What is missing is always missed
first: wherever the cut falls, inside a number, between a tag and its body, or between two items of
a batch, the input ends before any check of a value can fail. What stands behind a value is always
the only fault. Both follow from reading and writing being inverse, so no record is looked into
again.
-/

namespace SwapRelay

namespace Wire

variable {α : Type} [Wire α] {input rest : Bytes} {value : α} {fault : DecodeError}

theorem decode_of_read (taken : (read : Reader α) input = .ok (value, rest)) :
    decode α input = if rest.isEmpty then .ok value else .error .trailingBytes := by
  unfold decode
  rw [StateT.run, taken]
  rfl

theorem decode_of_read_error (refused : (read : Reader α) input = .error fault) :
    decode α input = .error fault := by
  unfold decode
  rw [StateT.run, refused]
  rfl

end Wire

/-- Accepted bytes that are cut short end inside the value, wherever they are cut, and accepted
bytes that are continued have trailing bytes, whatever follows. -/
structure Strict {α : Type} (decode : Bytes → Except DecodeError α) : Prop where
  cut : ∀ bytes value, decode bytes = .ok value →
    ∀ front, front <+: bytes → front ≠ bytes → decode front = .error .endOfInput
  continued : ∀ bytes value, decode bytes = .ok value →
    ∀ extra, extra ≠ [] → decode (bytes ++ extra) = .error .trailingBytes

namespace Strict

/-- Reading is strict where accepted bytes are written forms and written forms are spelled. -/
theorem wire (α : Type) [Wire α] [LawfulWire α] [CanonicalWire α] :
    Strict (Wire.decode α) where
  cut bytes value decoded front short proper := by
    have spelled := LawfulWire.spells (CanonicalWire.write_of_decode decoded)
    obtain ⟨missing, joined⟩ := short
    have more : missing ≠ [] := by
      intro none
      rw [none, List.append_nil] at joined
      exact proper joined
    exact Wire.decode_of_read_error (spelled.starved front missing joined.symm more)
  continued bytes value decoded extra more := by
    have spelled := LawfulWire.spells (CanonicalWire.write_of_decode decoded)
    rw [Wire.decode_of_read (spelled.taken extra), if_neg]
    rwa [List.isEmpty_iff]

/-- A version byte in front does no harm: an empty input misses it, and any other input either has
it or is refused with all that begin like it. -/
theorem message : Strict SwapMessage.decode where
  cut bytes value decoded front short proper := by
    cases front with
    | nil => rfl
    | cons head body =>
      obtain ⟨missing, rfl⟩ := short
      rw [List.cons_append, SwapMessage.decode] at decoded
      split at decoded
      · rename_i known
        rw [SwapMessage.decode, if_pos known]
        refine (wire SwapMessage).cut _ value decoded body (List.prefix_append _ _) ?_
        intro same
        exact proper (congrArg (head :: ·) same)
      · cases decoded
  continued bytes value decoded extra more := by
    cases bytes with
    | nil => cases decoded
    | cons head body =>
      rw [SwapMessage.decode] at decoded
      split at decoded
      · rename_i known
        rw [List.cons_append, SwapMessage.decode, if_pos known]
        exact (wire SwapMessage).continued body value decoded extra more
      · cases decoded

end Strict

/-- Messages, output tokens, redeem options, fee records and the batches of commands, of fee changes
and of queries are all read strictly: every accepted byte string is refused as too short when it is
cut anywhere, and as too long when anything follows. -/
theorem records_read_strictly :
    Strict SwapMessage.decode ∧ Strict (Wire.decode OutputToken) ∧
      Strict (Wire.decode RedeemOption) ∧ Strict (Wire.decode FeeRecord) ∧
      Strict (Wire.decode (Batch GovernanceCommand)) ∧
      Strict (Wire.decode (Batch ChainFeeUpdate)) ∧ Strict (Wire.decode (Batch Query)) :=
  ⟨.message, .wire OutputToken, .wire RedeemOption, .wire FeeRecord,
    .wire (Batch GovernanceCommand), .wire (Batch ChainFeeUpdate), .wire (Batch Query)⟩

theorem two_queries_read_strictly :
    Wire.decode (Batch Query) [2, 0, 0, 0, 4, 3] = .ok ⟨[.assistant, .adminCanUpgrade]⟩ ∧
      Wire.decode (Batch Query) [2, 0, 0, 0, 4] = .error .endOfInput ∧
      Wire.decode (Batch Query) [2, 0, 0, 0, 4, 3, 9] = .error .trailingBytes := by
  obtain ⟨-, -, -, -, -, -, strict⟩ := records_read_strictly
  have decoded : Wire.decode (Batch Query) [2, 0, 0, 0, 4, 3] =
      .ok ⟨[.assistant, .adminCanUpgrade]⟩ := rfl
  exact ⟨decoded, strict.cut _ _ decoded _ (List.prefix_append [2, 0, 0, 0, 4] [3]) (by decide),
    strict.continued _ _ decoded [9] (by decide)⟩

end SwapRelay
