import SwapRelay.Proofs.Reading

/-!
# What can be written

Which values have a written form, and how many bytes it takes. Only two length fields can be too
small for what they count: that of a payload and that of the hops of a path. Together with what is
known of reading this says everything about a message that goes to the other end and comes back.
-/

namespace SwapRelay

/-- The written form takes this many bytes, and there is one exactly under this condition. -/
structure Written.Takes (written : Written) (size : Nat) (fits : Prop) : Prop where
  length_eq : ∀ bytes, written = .ok bytes → bytes.length = size
  exists_iff : (∃ bytes, written = .ok bytes) ↔ fits

namespace Written.Takes

variable {first second written : Written} {m n : Nat} {p q : Prop}

theorem ok (bytes : Bytes) : Takes (.ok bytes) bytes.length True where
  length_eq _ same := by
    cases same
    rfl
  exists_iff := iff_of_true ⟨bytes, rfl⟩ trivial

theorem append (front : Takes first m p) (back : Takes second n q) :
    Takes (first ++ second) (m + n) (p ∧ q) where
  length_eq bytes joined := by
    obtain ⟨head, tail, ahead, behind, rfl⟩ := append_eq_ok_iff.mp joined
    rw [List.length_append, front.length_eq head ahead, back.length_eq tail behind]
  exists_iff := by
    rw [← front.exists_iff, ← back.exists_iff]
    constructor
    · rintro ⟨bytes, joined⟩
      obtain ⟨head, tail, ahead, behind, rfl⟩ := append_eq_ok_iff.mp joined
      exact ⟨⟨head, ahead⟩, tail, behind⟩
    · rintro ⟨⟨head, ahead⟩, tail, behind⟩
      exact ⟨head ++ tail, append_eq_ok_iff.mpr ⟨head, tail, ahead, behind, rfl⟩⟩

theorem congr (takes : Takes written m p) (size : m = n) (same : p ↔ q) : Takes written n q where
  length_eq bytes accepted := size ▸ takes.length_eq bytes accepted
  exists_iff := takes.exists_iff.trans same

theorem tag (byte : UInt8) : Takes (Wire.tag byte) 1 True := ok [byte]

theorem word {n : Nat} (word : Word n) : Takes (Wire.write word) n True :=
  (ok word.toBytes).congr word.length_toBytes Iff.rfl

theorem counted (width : Nat) (body : Bytes) :
    Takes (Wire.writeCounted width body) (width + body.length) (body.length < 256 ^ width) where
  length_eq bytes counted := by
    obtain ⟨length, -, rfl⟩ := writeCounted_eq_ok_iff.mp counted
    rw [List.length_append, Word.length_toBytes]
  exists_iff := by
    constructor
    · rintro ⟨bytes, counted⟩
      obtain ⟨length, same, -⟩ := writeCounted_eq_ok_iff.mp counted
      exact same ▸ length.isLt
    · intro fits
      exact ⟨_, writeCounted_eq_ok_iff.mpr ⟨⟨body.length, fits⟩, rfl, rfl⟩⟩

theorem writeMany {α : Type} {write : α → Written} {size : Nat}
    (each : ∀ value, Takes (write value) size True) (items : List α) :
    Takes (Wire.writeMany write items) (size * items.length) True := by
  induction items with
  | nil => exact ok []
  | cons head tail ih =>
    rw [Written.writeMany_cons]
    refine ((each head).append ih).congr ?_ (and_self_iff)
    rw [List.length_cons, Nat.mul_succ, Nat.add_comm]

end Written.Takes

open Written

theorem SwapHop.takes (hop : SwapHop) : Takes (Wire.write hop) 23 True :=
  ((Takes.word hop.token).append (Takes.word hop.pool)).congr rfl and_self_iff

theorem SwapPath.takes_hopCount (count : Nat) : Takes (writeHopCount count) 1 (count ≤ 255) := by
  unfold writeHopCount Word.ofNat?
  split
  · rename_i word found
    split at found
    · rename_i fits
      exact (Takes.word word).congr rfl (iff_of_true trivial (Nat.le_of_lt_succ fits))
    · cases found
  · rename_i missing
    split at missing
    · cases missing
    · rename_i tooMany
      refine ⟨nofun, iff_of_false ?_ fun few => tooMany (Nat.lt_succ_of_le few)⟩
      rintro ⟨bytes, written⟩
      cases written

theorem SwapPath.takes (path : SwapPath) :
    Takes (Wire.write path) path.writtenSize (path.hops.length ≤ 255) := by
  have front := (Takes.word path.firstPool).append (takes_hopCount path.hops.length)
  have hops := Takes.writeMany SwapHop.takes path.hops
  refine (front.append hops).congr rfl ?_
  simp

/-- The pools that a swap goes through, at the venues that have them. -/
def SwapVenue.path? : SwapVenue → Option SwapPath
  | .uniswapV3 path | .traderJoe path => some path
  | .jupiterV6 _ => none

theorem SwapVenue.takes (venue : SwapVenue) :
    Takes (Wire.write venue) venue.writtenSize (∀ path ∈ venue.path?, path.hops.length ≤ 255) := by
  cases venue with
  | uniswapV3 path => exact ((Takes.tag 1).append path.takes).congr rfl (by simp [path?])
  | traderJoe path => exact ((Takes.tag 2).append path.takes).congr rfl (by simp [path?])
  | jupiterV6 program =>
    cases program with
    | none => exact ((Takes.tag 16).append (Takes.tag 0)).congr rfl (by simp [path?])
    | some address =>
      have program := (Takes.tag 1).append (Takes.word address)
      exact ((Takes.tag 16).append program).congr rfl (by simp [path?])

theorem OutputSwap.takes (swap : OutputSwap) :
    Takes (Wire.write swap) swap.writtenSize
      (∀ path ∈ swap.venue.path?, path.hops.length ≤ 255) := by
  have front := (Takes.word swap.deadline).append (Takes.word swap.limitAmount)
  exact (front.append swap.venue.takes).congr rfl (by simp)

def OutputToken.path? (token : OutputToken) : Option SwapPath :=
  token.swap?.bind fun swap => swap.venue.path?

theorem OutputToken.takes (token : OutputToken) :
    Takes (Wire.write token) token.writtenSize (∀ path ∈ token.path?, path.hops.length ≤ 255) := by
  cases token with
  | usdc => exact (Takes.tag 0).congr rfl (by simp [path?, swap?])
  | gas swap => exact ((Takes.tag 1).append swap.takes).congr rfl (by simp [path?, swap?])
  | other address swap =>
    have front := (Takes.tag 2).append (Takes.word address)
    exact (front.append swap.takes).congr rfl (by simp [path?, swap?])

theorem RedeemMode.takes (mode : RedeemMode) :
    Takes (Wire.write mode) mode.writtenSize
      (∀ sender body, mode = .payload sender body → body.length ≤ 65535) := by
  cases mode with
  | direct => exact (Takes.tag 0).congr rfl (by simp)
  | payload sender body =>
    have front := (Takes.tag 1).append (Takes.word sender)
    refine (front.append (Takes.counted 2 body)).congr ?_ ?_
    · exact (Nat.add_assoc 33 2 body.length).symm
    · constructor
      · rintro ⟨-, fits⟩ _ _ ⟨⟩
        exact Nat.le_of_lt_succ fits
      · intro short
        exact ⟨⟨trivial, trivial⟩, Nat.lt_succ_of_le (short sender body rfl)⟩
  | relay gasDropoff fee =>
    have front := (Takes.tag 2).append (Takes.word gasDropoff.units)
    exact (front.append (Takes.word fee)).congr rfl (by simp)

namespace SwapMessage

theorem takes (message : SwapMessage) :
    Takes message.encode (1 + message.writtenSize)
      ((∀ sender body, message.redeemMode = .payload sender body → body.length ≤ 65535) ∧
        ∀ path ∈ message.outputToken.path?, path.hops.length ≤ 255) := by
  have front := (Takes.word message.recipient).append message.redeemMode.takes
  have body := front.append message.outputToken.takes
  exact ((Takes.tag version).append body).congr rfl (by simp)

/-- A message can be written exactly when its payload and its path fit their length fields. It then
takes a version byte and its written size, it is read as what was written, and its body is read so
whatever stands behind it, which is left. -/
theorem encode_round_trip (message : SwapMessage) :
    ((∃ bytes, message.encode = .ok bytes) ↔
      (∀ sender body, message.redeemMode = .payload sender body → body.length ≤ 65535) ∧
        ∀ path ∈ message.outputToken.path?, path.hops.length ≤ 255) ∧
    ∀ bytes, message.encode = .ok bytes →
      bytes.length = 1 + message.writtenSize ∧ decode bytes = .ok message ∧
      ∃ body, bytes = version :: body ∧ ∀ further,
        (Wire.read : Reader SwapMessage).run (body ++ further) = .ok (message, further) := by
  refine ⟨message.takes.exists_iff, fun bytes encoded => ?_⟩
  refine ⟨message.takes.length_eq bytes encoded, decode_of_encode encoded, ?_⟩
  obtain ⟨head, body, first, second, rfl⟩ := append_eq_ok_iff.mp encoded
  cases first
  exact ⟨body, rfl, (LawfulWire.spells second).taken⟩

end SwapMessage
end SwapRelay
