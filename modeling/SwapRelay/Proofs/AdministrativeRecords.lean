import SwapRelay.Message.Governance
import SwapRelay.Message.Query
import SwapRelay.Proofs.Canonical
import SwapRelay.Proofs.Writing
import SwapRelay.Wire.Batch

/-!
# Administrative records

The records of fee updates, governance and queries, the batches in which they travel, and what a
sender asks for when staging. They are read as they were written and written as they were read, like
messages. A batch can be written exactly when its count fits four bytes.
-/

namespace SwapRelay

open Reader

theorem Bytes.toNat_zero_cons (bytes : Bytes) : toNat (0 :: bytes) = toNat bytes := by
  simp [toNat]

namespace FeeRecord

theorem toBytes_eq_of_val_eq {wide : Word 10} {price : Word 8} (same : wide.val = price.val) :
    wide.toBytes = [0, 0] ++ price.toBytes := by
  have length : ([0, 0] ++ price.toBytes).length = 10 := by
    rw [List.length_append, Word.length_toBytes]
    rfl
  have value : Bytes.toNat ([0, 0] ++ price.toBytes) = price.val := by
    rw [List.cons_append, List.cons_append, List.nil_append, Bytes.toNat_zero_cons,
      Bytes.toNat_zero_cons, Word.toBytes, Bytes.toNat_ofNat, Nat.mod_eq_of_lt price.isLt]
  have digits := Bytes.ofNat_toNat ([0, 0] ++ price.toBytes)
  rw [length, value, ← same] at digits
  exact digits

theorem spells_tokenPrice {price : Word 8} {bytes : Bytes}
    (written : writeTokenPrice price = .ok bytes) : Spells readTokenPrice bytes price := by
  cases written
  have fits : Word.ofNat? 8 (price.widen 10).val = some price := Word.ofNat?_eq_some_iff.mpr rfl
  have wide := Spells.word (price.widen 10)
  rw [toBytes_eq_of_val_eq rfl] at wide
  refine wide.convert ?_
  rw [fits]
  exact .pure price

theorem accounts_tokenPrice : Accounts readTokenPrice writeTokenPrice :=
  .bind (.word 10) fun wide => by
    split
    · rename_i price found
      have same : price.val = wide.val := Word.ofNat?_eq_some_iff.mp found
      refine .pure ?_
      rw [toBytes_eq_of_val_eq same.symm]
      rfl
    · exact .fail _

end FeeRecord

namespace Percentage

theorem ofRaw_raw (p : Percentage) : ofRaw p.raw = .ok p := dif_pos p.le_hundred

theorem raw_eq_of_ofRaw {raw : Word 2} {p : Percentage} (accepted : ofRaw raw = .ok p) :
    p.raw = raw := by
  unfold ofRaw at accepted
  split at accepted
  · cases accepted
    rfl
  · cases accepted

end Percentage

theorem Batch.spells_count (count : Word 4) : Spells readCount count.toBytes.reverse count where
  taken rest := by
    simp [readCount, List.splitAt_eq]
  starved front missing joined more := by
    have shorter : front.length < 4 := by
      have := List.length_pos_iff.mpr more
      have digits : count.toBytes.reverse.length = 4 := by
        rw [List.length_reverse, Word.length_toBytes]
      rw [joined, List.length_append] at digits
      omega
    simp only [readCount, List.splitAt_eq, List.length_take]
    rw [dif_neg (by omega)]

theorem Batch.accounts_count : Accounts readCount writeCount := by
  intro input count rest accepted
  unfold readCount at accepted
  dsimp only at accepted
  split at accepted
  · cases accepted
    refine ⟨(input.splitAt 4).1, ?_, Accounts.splitAt_eq_append 4 input⟩
    rw [writeCount, Word.toBytes_ofBytes, List.reverse_reverse]
  · cases accepted

namespace LawfulWire

instance : LawfulWire Percentage where
  spells {p bytes} written := by
    have raw : Spells Wire.read bytes p.raw := spells written
    refine raw.convert ?_
    rw [Percentage.ofRaw_raw]
    exact .pure p

instance : LawfulWire GasPrice where
  spells {price bytes} written := by
    have units : Spells Wire.read bytes price.units := spells written
    exact units.map _

instance : LawfulWire FeeRecord where
  spells {record bytes} written := by
    change _ ++ _ ++ _ ++ _ ++ _ ++ _ ++ _ ++ _ = _ at written
    simp only [Written.append_assoc] at written
    refine .joined written (fun _ => spells) fun _ written => ?_
    refine .joined written (fun _ => spells) fun _ written => ?_
    refine .joined written (fun _ => spells) fun _ written => ?_
    refine .joined written (fun _ => spells) fun _ written => ?_
    refine .joined written (fun _ => spells) fun _ written => ?_
    refine .joined written (fun _ => spells) fun _ written => ?_
    refine .joined written (fun _ => spells) fun _ written => ?_
    exact (FeeRecord.spells_tokenPrice written).map _

instance : LawfulWire FeeUpdate where
  spells {update bytes} written := by
    cases update with
    | gasPrice timestamp price =>
      refine .tagged (Written.regroup written) fun _ behind => ?_
      exact .joined behind (fun _ => spells) fun _ price => (spells price).map _
    | gasTokenPrice price =>
      exact .tagged written fun _ body => (FeeRecord.spells_tokenPrice body).map _
    | baseFee fee => exact .tagged written fun _ body => (spells body).map _
    | gasPriceUpdateThreshold threshold =>
      exact .tagged written fun _ body => (spells body).map _
    | gasPriceMargin margin => exact .tagged written fun _ body => (spells body).map _
    | gasDropoffMargin margin => exact .tagged written fun _ body => (spells body).map _
    | maxGasDropoff dropoff => exact .tagged written fun _ body => (spells body).map _

instance : LawfulWire ChainFeeUpdate where
  spells written := .joined written (fun _ => spells) fun _ update => (spells update).map _

instance : LawfulWire Endpoint where
  spells written := .joined written (fun _ => spells) fun _ address => (spells address).map _

instance : LawfulWire GovernanceCommand where
  spells {command bytes} written := by
    cases command with
    | updateEndpoint endpoint fees =>
      refine .tagged (Written.regroup written) fun _ behind => ?_
      exact .joined behind (fun _ => spells) fun _ fees => (spells fees).map _
    | proposeEndpointUpdate endpoint => exact .tagged written fun _ body => (spells body).map _
    | upgradeContract implementation => exact .tagged written fun _ body => (spells body).map _
    | proposeContractUpgrade implementation =>
      exact .tagged written fun _ body => (spells body).map _

instance : LawfulWire RoleAspect where
  spells {aspect bytes} written := by
    cases written
    refine (Spells.byte aspect.tag).convert ?_
    cases aspect <;> exact .pure _

instance : LawfulWire ImmutableSetting where
  spells {setting bytes} written := by
    cases written
    refine (Spells.byte setting.tag).convert ?_
    cases setting <;> exact .pure _

instance : LawfulWire Query where
  spells {query bytes} written := by
    cases query with
    | feeRecord chain => exact .tagged written fun _ body => (spells body).map _
    | endpoint aspect chain =>
      refine .tagged (Written.regroup written) fun _ behind => ?_
      exact .joined behind (fun _ => spells) fun _ chain => (spells chain).map _
    | immutableSetting setting => exact .tagged written fun _ body => (spells body).map _
    | adminCanUpgrade =>
      cases written
      exact (Spells.byte 3).convert (.pure _)
    | assistant =>
      cases written
      exact (Spells.byte 4).convert (.pure _)
    | owner aspect => exact .tagged written fun _ body => (spells body).map _
    | admin aspect => exact .tagged written fun _ body => (spells body).map _
    | feeRecipient aspect => exact .tagged written fun _ body => (spells body).map _
    | implementation aspect => exact .tagged written fun _ body => (spells body).map _

instance : LawfulWire RedeemOption where
  spells {option bytes} written := by
    cases option with
    | direct =>
      cases written
      exact (Spells.byte 0).convert (.pure _)
    | payload body => exact .tagged written fun _ body => (Spells.counted body).map _
    | relay gasDropoff maxFee =>
      refine .tagged (Written.regroup written) fun _ behind => ?_
      exact .joined behind (fun _ => spells) fun _ fee => (spells fee).map _

end LawfulWire

namespace CanonicalWire

instance : CanonicalWire Percentage where
  accounts := .bind accounts fun raw => by
    split
    · rename_i p accepted
      refine .pure ?_
      change Wire.write p.raw = Wire.write raw
      rw [Percentage.raw_eq_of_ofRaw accepted]
    · exact .fail _

instance : CanonicalWire GasPrice where
  accounts := .bind accounts fun _ => .pure rfl

instance : CanonicalWire FeeRecord where
  accounts := .bind accounts fun _ => .bind accounts fun _ => .bind accounts fun _ =>
    .bind accounts fun _ => .bind accounts fun _ => .bind accounts fun _ =>
    .bind accounts fun _ => .last FeeRecord.accounts_tokenPrice fun _ => rfl

instance : CanonicalWire FeeUpdate where
  accounts := .tagged fun tag => by
    split
    · exact .bind accounts fun _ => .last accounts fun _ => rfl
    · exact .last FeeRecord.accounts_tokenPrice fun _ => rfl
    · exact .last accounts fun _ => rfl
    · exact .last accounts fun _ => rfl
    · exact .last accounts fun _ => rfl
    · exact .last accounts fun _ => rfl
    · exact .last accounts fun _ => rfl
    · exact .fail _

instance : CanonicalWire ChainFeeUpdate where
  accounts := .bind accounts fun _ => .last accounts fun _ => rfl

instance : CanonicalWire Endpoint where
  accounts := .bind accounts fun _ => .last accounts fun _ => rfl

instance : CanonicalWire GovernanceCommand where
  accounts := .tagged fun tag => by
    split
    · exact .bind accounts fun _ => .last accounts fun _ => rfl
    · exact .last accounts fun _ => rfl
    · exact .last accounts fun _ => rfl
    · exact .last accounts fun _ => rfl
    · exact .fail _

instance : CanonicalWire RoleAspect where
  accounts := .tagged fun tag => by
    split
    · exact .pure rfl
    · exact .pure rfl
    · exact .pure rfl
    · exact .fail _

instance : CanonicalWire ImmutableSetting where
  accounts := .tagged fun tag => by
    split
    · exact .pure rfl
    · exact .pure rfl
    · exact .pure rfl
    · exact .pure rfl
    · exact .pure rfl
    · exact .pure rfl
    · exact .pure rfl
    · exact .pure rfl
    · exact .fail _

instance : CanonicalWire Query where
  accounts := .tagged fun tag => by
    split
    · exact .last accounts fun _ => rfl
    · exact .bind accounts fun _ => .last accounts fun _ => rfl
    · exact .last accounts fun _ => rfl
    · exact .pure rfl
    · exact .pure rfl
    · exact .last accounts fun _ => rfl
    · exact .last accounts fun _ => rfl
    · exact .last accounts fun _ => rfl
    · exact .last accounts fun _ => rfl
    · exact .fail _

instance : CanonicalWire RedeemOption where
  accounts := .tagged fun tag => by
    split
    · exact .pure rfl
    · exact .last (.counted 4) fun _ => rfl
    · exact .bind accounts fun _ => .last accounts fun _ => rfl
    · exact .fail _

end CanonicalWire

namespace Batch

variable {α : Type} [Wire α] {batch : Batch α}

theorem write_of_count {count : Word 4} (same : count.val = batch.items.length) :
    Wire.write batch = writeCount count ++ Wire.writeMany Wire.write batch.items := by
  simp only [Wire.write, Word.ofNat?_eq_some_iff.mpr same]

theorem write_eq_ok_iff {bytes : Bytes} :
    Wire.write batch = .ok bytes ↔ ∃ count : Word 4, count.val = batch.items.length ∧
      writeCount count ++ Wire.writeMany Wire.write batch.items = .ok bytes := by
  constructor
  · intro written
    cases fits : Word.ofNat? 4 batch.items.length with
    | none =>
      simp only [Wire.write, fits] at written
      cases written
    | some count =>
      have same : count.val = batch.items.length := Word.ofNat?_eq_some_iff.mp fits
      rw [write_of_count same] at written
      exact ⟨count, same, written⟩
  · rintro ⟨count, same, written⟩
    rw [write_of_count same, written]

instance [LawfulWire α] : LawfulWire (Batch α) where
  spells {batch bytes} written := by
    obtain ⟨count, same, parts⟩ := write_eq_ok_iff.mp written
    have counts (part : Bytes) (counted : writeCount count = .ok part) :
        Spells readCount part count := by
      cases counted
      exact spells_count count
    refine .joined parts counts fun part items => ?_
    rw [same]
    exact (Spells.manyAfter (fun _ _ => LawfulWire.spells) items []).map _

instance [CanonicalWire α] : CanonicalWire (Batch α) where
  accounts := .bind accounts_count fun count => .many CanonicalWire.accounts fun items length => by
    have same : count.val = (Batch.mk items).items.length := length.symm
    exact write_of_count same

theorem exists_writeMany (each : ∀ value : α, ∃ bytes, Wire.write value = .ok bytes)
    (items : List α) : ∃ bytes, Wire.writeMany Wire.write items = .ok bytes := by
  induction items with
  | nil => exact ⟨[], rfl⟩
  | cons head tail ih =>
    obtain ⟨front, first⟩ := each head
    obtain ⟨back, others⟩ := ih
    rw [Written.writeMany_cons, first, others]
    exact ⟨front ++ back, rfl⟩

theorem exists_written_iff (each : ∀ value : α, ∃ bytes, Wire.write value = .ok bytes)
    (batch : Batch α) :
    (∃ bytes, Wire.write batch = .ok bytes) ↔ batch.items.length ≤ 4294967295 := by
  constructor
  · rintro ⟨bytes, written⟩
    obtain ⟨count, same, -⟩ := write_eq_ok_iff.mp written
    have below := count.isLt
    rw [same] at below
    exact Nat.le_of_lt_succ below
  · intro few
    obtain ⟨bytes, items⟩ := exists_writeMany each batch.items
    let count : Word 4 := ⟨batch.items.length, Nat.lt_succ_of_le few⟩
    have same : count.val = batch.items.length := rfl
    refine ⟨count.toBytes.reverse ++ bytes, ?_⟩
    rw [write_of_count same, items]
    rfl

end Batch

/-- A number in four bytes, least significant first. -/
def littleEndian (n : Nat) : Bytes :=
  [UInt8.ofNat n, UInt8.ofNat (n / 256), UInt8.ofNat (n / 65536), UInt8.ofNat (n / 16777216)]

theorem Word.toBytes_reverse (word : Word 4) : word.toBytes.reverse = littleEndian word.val := by
  have digits : word.toBytes = [UInt8.ofNat (word.val / 256 / 256 / 256),
    UInt8.ofNat (word.val / 256 / 256), UInt8.ofNat (word.val / 256), UInt8.ofNat word.val] := rfl
  have third : word.val / 256 / 256 = word.val / 65536 := Nat.div_div_eq_div_mul _ 256 256
  have fourth : word.val / 65536 / 256 = word.val / 16777216 := Nat.div_div_eq_div_mul _ 65536 256
  rw [digits, third, fourth]
  rfl

/-- The values that fit are written, in a certain layout; and writing and reading all of the bytes
undo each other. -/
structure Wire.Faithful (α : Type) [Wire α] (fits : α → Prop) (layout : α → Bytes → Prop) :
    Prop where
  exists_iff : ∀ value : α, (∃ bytes, Wire.write value = .ok bytes) ↔ fits value
  decode_of_write : ∀ (value : α) bytes, Wire.write value = .ok bytes →
    Wire.decode α bytes = .ok value ∧ layout value bytes
  write_of_decode : ∀ (value : α) bytes, Wire.decode α bytes = .ok value →
    Wire.write value = .ok bytes

namespace Wire.Faithful

theorem of_lawful {α : Type} [Wire α] [LawfulWire α] [CanonicalWire α] {fits : α → Prop}
    {layout : α → Bytes → Prop}
    (exists_iff : ∀ value : α, (∃ bytes, Wire.write value = .ok bytes) ↔ fits value)
    (laidOut : ∀ (value : α) bytes, Wire.write value = .ok bytes → layout value bytes) :
    Wire.Faithful α fits layout where
  exists_iff := exists_iff
  decode_of_write value bytes written :=
    ⟨LawfulWire.decode_of_write written, laidOut value bytes written⟩
  write_of_decode _ _ decoded := CanonicalWire.write_of_decode decoded

theorem batch {α : Type} [Wire α] [LawfulWire α] [CanonicalWire α]
    (each : ∀ value : α, ∃ bytes, Wire.write value = .ok bytes) :
    Wire.Faithful (Batch α) (fun batch => batch.items.length ≤ 4294967295)
      fun batch bytes => littleEndian batch.items.length <+: bytes := by
  refine of_lawful (Batch.exists_written_iff each) fun batch bytes written => ?_
  obtain ⟨count, same, parts⟩ := Batch.write_eq_ok_iff.mp written
  obtain ⟨front, back, counted, items, rfl⟩ := Written.append_eq_ok_iff.mp parts
  cases counted
  rw [Word.toBytes_reverse, same]
  exact List.prefix_append _ _

end Wire.Faithful

theorem FeeRecord.takes (record : FeeRecord) :
    Written.Takes (Wire.write record) writtenSize True := by
  have price : Written.Takes (writeTokenPrice record.gasTokenPrice) 10 True :=
    (Written.Takes.ok _).congr (by simp) Iff.rfl
  have prices := (Written.Takes.word record.baseFee).append (.word record.gasPrice.units)
  have margin := prices.append (.word record.gasPriceMargin.raw)
  have timestamp := margin.append (.word record.gasPriceTimestamp)
  have threshold := timestamp.append (.word record.gasPriceUpdateThreshold.raw)
  have dropoff := threshold.append (.word record.maxGasDropoff.units)
  have dropoffMargin := dropoff.append (.word record.gasDropoffMargin.raw)
  exact (dropoffMargin.append price).congr rfl (by simp)

theorem FeeUpdate.exists_written (update : FeeUpdate) :
    ∃ bytes, Wire.write update = .ok bytes := by
  cases update <;> exact ⟨_, rfl⟩

theorem ChainFeeUpdate.exists_written (change : ChainFeeUpdate) :
    ∃ bytes, Wire.write change = .ok bytes := by
  obtain ⟨bytes, written⟩ := change.update.exists_written
  refine ⟨change.chain.toBytes ++ bytes, ?_⟩
  change Wire.write change.chain ++ Wire.write change.update = _
  rw [written]
  rfl

theorem GovernanceCommand.exists_written (command : GovernanceCommand) :
    ∃ bytes, Wire.write command = .ok bytes := by
  cases command <;> exact ⟨_, rfl⟩

theorem Query.exists_written (query : Query) : ∃ bytes, Wire.write query = .ok bytes := by
  cases query <;> exact ⟨_, rfl⟩

namespace RedeemOption

theorem exists_written_iff (option : RedeemOption) :
    (∃ bytes, Wire.write option = .ok bytes) ↔
      ∀ body, option = .payload body → body.length ≤ 4294967295 := by
  cases option with
  | direct => exact iff_of_true ⟨_, rfl⟩ nofun
  | payload body =>
    have takes := (Written.Takes.tag 1).append (Written.Takes.counted 4 body)
    refine takes.exists_iff.trans ?_
    constructor
    · rintro ⟨-, fits⟩ _ ⟨⟩
      exact Nat.le_of_lt_succ fits
    · intro short
      exact ⟨trivial, Nat.lt_succ_of_le (short body rfl)⟩
  | relay gasDropoff maxFee => exact iff_of_true ⟨_, rfl⟩ nofun

theorem write_payload {body bytes : Bytes}
    (written : Wire.write (RedeemOption.payload body) = .ok bytes) :
    bytes = 1 :: (littleEndian body.length).reverse ++ body := by
  obtain ⟨tag, counted, first, second, rfl⟩ := Written.append_eq_ok_iff.mp written
  cases first
  obtain ⟨length, same, rfl⟩ := Written.writeCounted_eq_ok_iff.mp second
  rw [← same, ← Word.toBytes_reverse, List.reverse_reverse]
  rfl

end RedeemOption

/-- Batches of commands, of fee changes and of queries, redeem options and fee records are written
exactly when what they count fits four bytes, are read as they were written, and written as they
were read. A batch begins with its count, the payload of a redeem option with its length, and a fee
record always takes the same number of bytes. -/
theorem administrative_records_faithful :
    Wire.Faithful (Batch GovernanceCommand) (fun batch => batch.items.length ≤ 4294967295)
        (fun batch bytes => littleEndian batch.items.length <+: bytes) ∧
      Wire.Faithful (Batch ChainFeeUpdate) (fun batch => batch.items.length ≤ 4294967295)
        (fun batch bytes => littleEndian batch.items.length <+: bytes) ∧
      Wire.Faithful (Batch Query) (fun batch => batch.items.length ≤ 4294967295)
        (fun batch bytes => littleEndian batch.items.length <+: bytes) ∧
      Wire.Faithful RedeemOption
        (fun option => ∀ body, option = .payload body → body.length ≤ 4294967295)
        (fun option bytes => ∀ body, option = .payload body →
          bytes = 1 :: (littleEndian body.length).reverse ++ body) ∧
      Wire.Faithful FeeRecord (fun _ => True) fun _ bytes => bytes.length = FeeRecord.writtenSize := by
  refine ⟨.batch GovernanceCommand.exists_written, .batch ChainFeeUpdate.exists_written,
    .batch Query.exists_written, ?_, ?_⟩
  · refine .of_lawful RedeemOption.exists_written_iff fun option bytes written body same => ?_
    subst same
    exact RedeemOption.write_payload written
  · exact .of_lawful (fun record => record.takes.exists_iff) fun record => record.takes.length_eq

example : Wire.write (Batch.mk [Query.assistant, .adminCanUpgrade]) = .ok [2, 0, 0, 0, 4, 3] := rfl

end SwapRelay
