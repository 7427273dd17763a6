import SwapRelay.Proofs.Reading

/-!
# What is read was written

The converse of reading what was written: whatever a reader accepts is the written form of the value
that it gives, in front of what it leaves. So no value has two written forms, and nobody can change
the bytes of a message without changing the message. This too is shown for readers in the way they
are put together.
-/

namespace SwapRelay

namespace Reader

variable {α β : Type}

/-- What the reader accepts is the written form of its value, in front of what it leaves. -/
def Accounts (read : Reader α) (write : α → Written) : Prop :=
  ∀ input value rest, read input = .ok (value, rest) →
    ∃ front, write value = .ok front ∧ input = front ++ rest

/-- What the reader accepts completes the written form of its value, of which a part stands ahead of
the input. -/
def Completes (ahead : Written) (read : Reader α) (write : α → Written) : Prop :=
  ∀ front, ahead = .ok front → ∀ input value rest, read input = .ok (value, rest) →
    ∃ back, write value = .ok (front ++ back) ∧ input = back ++ rest

theorem bind_eq_ok_iff {first : Reader α} {next : α → Reader β} {input rest : Bytes} {result : β} :
    (first >>= next) input = .ok (result, rest) ↔
      ∃ value middle, first input = .ok (value, middle) ∧ next value middle = .ok (result, rest) := by
  rw [bind_apply]
  constructor
  · intro accepted
    split at accepted
    · rename_i value middle taken
      exact ⟨value, middle, taken, accepted⟩
    · cases accepted
  · rintro ⟨value, middle, taken, behind⟩
    rw [taken]
    exact behind

namespace Accounts

variable {read : Reader α} {next : α → Reader β} {part : α → Written} {write : β → Written}

theorem bind (first : Accounts read part)
    (others : ∀ value, Completes (part value) (next value) write) :
    Accounts (read >>= next) write := by
  intro input result rest accepted
  obtain ⟨value, middle, taken, behind⟩ := bind_eq_ok_iff.mp accepted
  obtain ⟨front, written, rfl⟩ := first input value middle taken
  obtain ⟨back, whole, rfl⟩ := others value front written middle result rest behind
  exact ⟨front ++ back, whole, (List.append_assoc front back rest).symm⟩

theorem byte : Accounts Reader.byte Wire.tag := by
  intro input value rest accepted
  cases input with
  | nil => cases accepted
  | cons first tail =>
    cases accepted
    exact ⟨[value], rfl, rfl⟩

theorem tagged {next : UInt8 → Reader β} (branch : ∀ tag, Completes (Wire.tag tag) (next tag) write) :
    Accounts (Reader.byte >>= next) write :=
  byte.bind branch

theorem splitAt_eq_append (n : Nat) (input : Bytes) :
    input = (input.splitAt n).1 ++ (input.splitAt n).2 := by
  rw [List.splitAt_eq, List.take_append_drop]

theorem word (n : Nat) : Accounts (Reader.word n) fun word => .ok word.toBytes := by
  intro input value rest accepted
  unfold Reader.word at accepted
  dsimp only at accepted
  split at accepted
  · cases accepted
    exact ⟨_, congrArg Except.ok (Word.toBytes_ofBytes _ _), splitAt_eq_append n input⟩
  · cases accepted

theorem bytes (count : Nat) {input value rest : Bytes}
    (accepted : Reader.bytes count input = .ok (value, rest)) :
    value.length = count ∧ input = value ++ rest := by
  unfold Reader.bytes at accepted
  dsimp only at accepted
  split at accepted
  · rename_i length
    have parts : input.splitAt count = (value, rest) := Except.ok.inj accepted
    have whole := splitAt_eq_append count input
    rw [parts] at length whole
    exact ⟨length, whole⟩
  · cases accepted

theorem counted (width : Nat) : Accounts (Reader.counted width) (Wire.writeCounted width) := by
  intro input value rest accepted
  obtain ⟨length, middle, taken, behind⟩ := bind_eq_ok_iff.mp accepted
  obtain ⟨front, written, rfl⟩ := word width input length middle taken
  obtain ⟨same, rfl⟩ := bytes length.val behind
  cases written
  refine ⟨length.toBytes ++ value, ?_, (List.append_assoc _ value rest).symm⟩
  exact Written.writeCounted_eq_ok_iff.mpr ⟨length, same.symm, rfl⟩

theorem manyAfter {item : Reader α} {write : α → Written} (each : Accounts item write) (count : Nat)
    (latestFirst : List α) {input rest : Bytes} {values : List α}
    (accepted : Reader.manyAfter item count latestFirst input = .ok (values, rest)) :
    ∃ later front, values = latestFirst.reverse ++ later ∧ later.length = count ∧
      Wire.writeMany write later = .ok front ∧ input = front ++ rest := by
  induction count generalizing latestFirst input with
  | zero =>
    cases accepted
    exact ⟨[], [], (List.append_nil _).symm, rfl, rfl, rfl⟩
  | succ count ih =>
    rw [manyAfter_succ] at accepted
    obtain ⟨value, middle, taken, behind⟩ := bind_eq_ok_iff.mp accepted
    obtain ⟨front, written, rfl⟩ := each input value middle taken
    obtain ⟨later, back, rfl, length, others, rfl⟩ := ih (value :: latestFirst) behind
    refine ⟨value :: later, front ++ back, ?_, ?_, ?_, (List.append_assoc front back rest).symm⟩
    · rw [List.reverse_cons, List.append_assoc, List.singleton_append]
    · rw [List.length_cons, length]
    · rw [Written.writeMany_cons, written, others, Written.ok_append_ok]

end Accounts

namespace Completes

variable {ahead : Written} {read : Reader α} {next : α → Reader β} {part : α → Written}
  {write : β → Written}

theorem pure {value : β} (written : write value = ahead) : Completes ahead (pure value) write := by
  intro front stands input result rest accepted
  cases accepted
  exact ⟨[], by rw [written, stands, List.append_nil], rfl⟩

theorem bind (field : Accounts read part)
    (others : ∀ value, Completes (ahead ++ part value) (next value) write) :
    Completes ahead (read >>= next) write := by
  intro front stands input result rest accepted
  obtain ⟨value, middle, taken, behind⟩ := bind_eq_ok_iff.mp accepted
  obtain ⟨here, written, rfl⟩ := field input value middle taken
  have joined : ahead ++ part value = .ok (front ++ here) := by
    rw [stands, written, Written.ok_append_ok]
  obtain ⟨back, whole, rfl⟩ := others value (front ++ here) joined middle result rest behind
  refine ⟨here ++ back, ?_, (List.append_assoc here back rest).symm⟩
  rw [whole, List.append_assoc]

theorem last (field : Accounts read part) {convert : α → β}
    (written : ∀ value, write (convert value) = ahead ++ part value) :
    Completes ahead (read >>= fun value => Pure.pure (convert value)) write :=
  bind field fun value => pure (written value)

theorem fail (fault : DecodeError) : Completes ahead (Reader.fail fault) write := by
  intro front stands input result rest accepted
  cases accepted

theorem many {item : Reader α} {write : α → Written} {convert : List α → β} {whole : β → Written}
    (each : Accounts item write) {count : Nat}
    (written : ∀ values, values.length = count →
      whole (convert values) = ahead ++ Wire.writeMany write values) :
    Completes ahead (Reader.many item count >>= fun values => Pure.pure (convert values)) whole := by
  intro front stands input result rest accepted
  obtain ⟨values, middle, taken, behind⟩ := bind_eq_ok_iff.mp accepted
  cases behind
  obtain ⟨later, back, same, length, others, rfl⟩ := Accounts.manyAfter each count [] taken
  rw [List.reverse_nil, List.nil_append] at same
  subst same
  refine ⟨back, ?_, rfl⟩
  rw [written values length, stands, others, Written.ok_append_ok]

end Completes
end Reader

/-- Whatever is read as a value is its written form. -/
class CanonicalWire (α : Type) [Wire α] : Prop where
  accounts : Reader.Accounts (Wire.read : Reader α) Wire.write

namespace CanonicalWire

open Reader

variable {α : Type} [Wire α] [CanonicalWire α]

instance (n : Nat) : CanonicalWire (Word n) where
  accounts := .word n

instance : CanonicalWire (Option α) where
  accounts := .tagged fun tag => by
    split
    · exact .pure rfl
    · exact .last accounts fun _ => rfl
    · exact .fail _

instance : CanonicalWire SwapHop where
  accounts := .bind accounts fun _ => .last accounts fun _ => rfl

theorem writeHopCount_toNat (count : UInt8) :
    SwapPath.writeHopCount count.toNat = Wire.tag count := by
  have fits : Word.ofNat? 1 count.toNat = some ⟨count.toNat, count.toNat_lt⟩ :=
    Word.ofNat?_eq_some_iff.mpr rfl
  have digit : UInt8.ofNat count.toNat = count := UInt8.ofNat_toNat
  rw [SwapPath.writeHopCount, fits]
  change Except.ok ([] ++ [UInt8.ofNat count.toNat]) = Wire.tag count
  rw [digit]
  rfl

instance : CanonicalWire SwapPath where
  accounts := .bind accounts fun firstPool => .bind .byte fun count =>
    .many accounts fun hops length => by
      change Wire.write firstPool ++ SwapPath.writeHopCount hops.length ++ _ = _
      rw [length, writeHopCount_toNat]

instance : CanonicalWire SwapVenue where
  accounts := .tagged fun tag => by
    split
    · exact .last accounts fun _ => rfl
    · exact .last accounts fun _ => rfl
    · exact .last accounts fun _ => rfl
    · exact .fail _

instance : CanonicalWire OutputSwap where
  accounts := .bind accounts fun _ => .bind accounts fun _ => .last accounts fun _ => rfl

instance : CanonicalWire OutputToken where
  accounts := .tagged fun tag => by
    split
    · exact .pure rfl
    · exact .last accounts fun _ => rfl
    · exact .bind accounts fun _ => .last accounts fun _ => rfl
    · exact .fail _

instance : CanonicalWire GasDropoff where
  accounts := .bind accounts fun _ => .pure rfl

instance : CanonicalWire RedeemMode where
  accounts := .tagged fun tag => by
    split
    · exact .pure rfl
    · exact .bind accounts fun _ => .last (.counted 2) fun _ => rfl
    · exact .bind accounts fun _ => .last accounts fun _ => rfl
    · exact .fail _

instance : CanonicalWire SwapMessage where
  accounts := .bind accounts fun _ => .bind accounts fun _ => .last accounts fun _ => rfl

/-- What all of the bytes are read as has these bytes as its written form. -/
theorem write_of_decode {value : α} {bytes : Bytes} (decoded : Wire.decode α bytes = .ok value) :
    Wire.write value = .ok bytes := by
  obtain ⟨⟨result, rest⟩, taken, whole⟩ := SwapRelay.bind_eq_ok_iff.mp decoded
  obtain ⟨front, written, rfl⟩ := accounts bytes result rest taken
  dsimp only at whole
  by_cases empty : rest.isEmpty = true
  · rw [if_pos empty] at whole
    cases whole
    rw [List.isEmpty_iff.mp empty, List.append_nil]
    exact written
  · rw [if_neg empty] at whole
    cases whole

end CanonicalWire

namespace SwapMessage

theorem encode_of_decode {message : SwapMessage} {bytes : Bytes}
    (decoded : decode bytes = .ok message) : message.encode = .ok bytes := by
  cases bytes with
  | nil => cases decoded
  | cons head body =>
    by_cases known : head = version
    · rw [decode, if_pos known] at decoded
      have written := CanonicalWire.write_of_decode decoded
      rw [encode, written, known]
      rfl
    · rw [decode, if_neg known] at decoded
      cases decoded

/-- The bytes that are read as a message are those that it is written as, so no two byte strings are
read as the same message, and exactly the written byte strings are read. -/
theorem decode_canonical :
    (∀ bytes message, decode bytes = .ok message → message.encode = .ok bytes) ∧
      (∀ bytes other message, decode bytes = .ok message → decode other = .ok message →
        bytes = other) ∧
      ∀ bytes, (∃ message, decode bytes = .ok message) ↔
        ∃ message : SwapMessage, message.encode = .ok bytes := by
  refine ⟨fun bytes message => encode_of_decode, ?_, fun bytes => ?_⟩
  · intro bytes other message decoded again
    have same := (encode_of_decode decoded).symm.trans (encode_of_decode again)
    exact Except.ok.inj same
  · exact exists_congr fun message => ⟨encode_of_decode, decode_of_encode⟩

end SwapMessage
end SwapRelay
