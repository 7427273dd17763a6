import SwapRelay.Message.SwapMessage
import SwapRelay.Proofs.Checks

/-!
# What is written is read

The written form of a value spells it: a reader takes exactly these bytes from the front of any
input, and it asks for more when some of them are missing. This is shown for readers in the way they
are put together, and it follows for each type that is sent.
-/

namespace SwapRelay

namespace Written

theorem append_assoc (first second third : Written) :
    first ++ second ++ third = first ++ (second ++ third) := by
  cases first with
  | error fault => rfl
  | ok front =>
    cases second with
    | error fault => rfl
    | ok middle =>
      cases third with
      | error fault => rfl
      | ok back => exact congrArg Except.ok (List.append_assoc front middle back)

theorem regroup {first second third : Written} {bytes : Bytes}
    (written : first ++ second ++ third = .ok bytes) : first ++ (second ++ third) = .ok bytes := by
  rwa [append_assoc] at written

theorem writeCounted_eq_ok_iff {width : Nat} {body bytes : Bytes} :
    Wire.writeCounted width body = .ok bytes ↔
      ∃ length : Word width, length.val = body.length ∧ bytes = length.toBytes ++ body := by
  unfold Wire.writeCounted
  cases fits : Word.ofNat? width body.length with
  | none =>
    refine iff_of_false nofun ?_
    rintro ⟨length, same, -⟩
    rw [Word.ofNat?_eq_some_iff.mpr same] at fits
    cases fits
  | some length =>
    have same : length.val = body.length := Word.ofNat?_eq_some_iff.mp fits
    constructor
    · rintro ⟨⟩
      exact ⟨length, same, rfl⟩
    · rintro ⟨other, equal, rfl⟩
      rw [Fin.ext (equal.trans same.symm)]

theorem writeMany_cons {α : Type} (write : α → Written) (head : α) (tail : List α) :
    Wire.writeMany write (head :: tail) = write head ++ Wire.writeMany write tail := by
  unfold Wire.writeMany
  rw [List.mapM_cons]
  cases write head with
  | error fault => rfl
  | ok front => cases tail.mapM write <;> rfl

end Written

namespace Reader

variable {α β : Type}

/-- The reader takes the bytes as a value, whatever follows them, and accepts nothing less. -/
structure Spells (read : Reader α) (bytes : Bytes) (value : α) : Prop where
  taken : ∀ rest, read (bytes ++ rest) = .ok (value, rest)
  starved : ∀ front missing, bytes = front ++ missing → missing ≠ [] →
    read front = .error .endOfInput

theorem bind_apply (first : Reader α) (next : α → Reader β) (input : Bytes) :
    (first >>= next) input =
      match first input with
      | .ok (value, rest) => next value rest
      | .error fault => .error fault := by
  change (first input >>= fun taken => next taken.1 taken.2) = _
  cases first input <;> rfl

theorem manyAfter_succ (item : Reader α) (count : Nat) (latestFirst : List α) :
    manyAfter item (count + 1) latestFirst =
      item >>= fun value => manyAfter item count (value :: latestFirst) := by
  funext input
  rw [bind_apply, manyAfter]
  cases item input <;> rfl

namespace Spells

variable {read : Reader α} {front back bytes : Bytes} {value : α}

theorem pure (value : α) : Spells (pure value) [] value where
  taken _ := rfl
  starved front missing joined more := by
    have := (List.append_eq_nil_iff.mp joined.symm).2
    contradiction

theorem bind {next : α → Reader β} {result : β} (first : Spells read front value)
    (second : Spells (next value) back result) : Spells (read >>= next) (front ++ back) result where
  taken rest := by
    rw [bind_apply, List.append_assoc, first.taken]
    exact second.taken rest
  starved part missing joined more := by
    rw [bind_apply]
    rcases List.append_eq_append_iff.mp joined with ⟨middle, rfl, rest⟩ | ⟨middle, rest, left⟩
    · rw [first.taken]
      exact second.starved middle missing rest more
    · by_cases whole : middle = []
      · subst whole
        have taken := first.taken []
        rw [rest, List.append_nil, List.append_nil] at taken
        rw [taken]
        exact second.starved [] missing left.symm more
      · rw [first.starved part middle rest whole]

theorem convert {next : α → Reader β} {result : β} (first : Spells read bytes value)
    (second : Spells (next value) [] result) : Spells (read >>= next) bytes result := by
  have both : Spells (read >>= next) (bytes ++ []) result := first.bind second
  rwa [List.append_nil] at both

theorem map (first : Spells read bytes value) (change : α → β) :
    Spells (read >>= fun value => Pure.pure (change value)) bytes (change value) :=
  first.convert (pure (change value))

theorem byte (head : UInt8) : Spells Reader.byte [head] head where
  taken _ := rfl
  starved front missing joined more := by
    cases front with
    | nil => rfl
    | cons first front =>
      have := (List.append_eq_nil_iff.mp (List.cons.inj joined).2.symm).2
      contradiction

theorem bytes_length (bytes : Bytes) : Spells (Reader.bytes bytes.length) bytes bytes where
  taken rest := by
    simp [Reader.bytes, List.splitAt_eq]
  starved front missing joined more := by
    have shorter : front.length < bytes.length := by
      have := List.length_pos_iff.mpr more
      rw [joined, List.length_append]
      omega
    simp only [Reader.bytes, List.splitAt_eq, List.length_take]
    rw [if_neg (by omega)]

theorem word {n : Nat} (word : Word n) : Spells (Reader.word n) word.toBytes word where
  taken rest := by
    simp [Reader.word, List.splitAt_eq]
  starved front missing joined more := by
    have shorter : front.length < n := by
      have := List.length_pos_iff.mpr more
      have := word.length_toBytes
      rw [joined, List.length_append] at this
      omega
    simp only [Reader.word, List.splitAt_eq, List.length_take]
    rw [dif_neg (by omega)]

theorem joined {next : α → Reader β} {result : β} {first second : Written}
    (written : first ++ second = .ok bytes)
    (front : ∀ part, first = .ok part → Spells read part value)
    (back : ∀ part, second = .ok part → Spells (next value) part result) :
    Spells (read >>= next) bytes result := by
  obtain ⟨head, tail, ahead, behind, rfl⟩ := Written.append_eq_ok_iff.mp written
  exact (front head ahead).bind (back tail behind)

theorem tagged {next : UInt8 → Reader β} {result : β} {tag : UInt8} {body : Written}
    (written : Wire.tag tag ++ body = .ok bytes)
    (back : ∀ part, body = .ok part → Spells (next tag) part result) :
    Spells (Reader.byte >>= next) bytes result := by
  refine joined written (fun part ahead => ?_) back
  cases ahead
  exact byte tag

theorem counted {width : Nat} {body written : Bytes}
    (accepted : Wire.writeCounted width body = .ok written) :
    Spells (Reader.counted width) written body := by
  obtain ⟨length, same, rfl⟩ := Written.writeCounted_eq_ok_iff.mp accepted
  refine (word length).bind ?_
  rw [same]
  exact bytes_length body

theorem manyAfter {item : Reader α} {write : α → Written}
    (lawful : ∀ value part, write value = .ok part → Spells item part value) {values : List α}
    {written : Bytes} (accepted : Wire.writeMany write values = .ok written)
    (latestFirst : List α) :
    Spells (Reader.manyAfter item values.length latestFirst) written
      (latestFirst.reverse ++ values) := by
  induction values generalizing written latestFirst with
  | nil =>
    have none : written = [] := by
      cases accepted
      rfl
    rw [none, List.append_nil]
    exact pure latestFirst.reverse
  | cons head tail ih =>
    rw [Written.writeMany_cons] at accepted
    obtain ⟨front, back, first, others, rfl⟩ := Written.append_eq_ok_iff.mp accepted
    have rest := ih others (head :: latestFirst)
    rw [List.reverse_cons, List.append_assoc] at rest
    rw [List.length_cons, manyAfter_succ]
    exact (lawful head front first).bind rest

end Spells
end Reader

/-- Every written form spells its value. -/
class LawfulWire (α : Type) [Wire α] : Prop where
  spells : ∀ {value : α} {bytes : Bytes}, Wire.write value = .ok bytes →
    Reader.Spells Wire.read bytes value

namespace LawfulWire

open Reader

variable {α : Type} [Wire α] [LawfulWire α]

instance (n : Nat) : LawfulWire (Word n) where
  spells written := by
    cases written
    exact .word _

instance : LawfulWire (Option α) where
  spells {value bytes} written := by
    cases value with
    | none =>
      cases written
      exact (Spells.byte 0).bind (.pure none)
    | some value => exact .tagged written fun _ body => (spells body).map some

instance : LawfulWire SwapHop where
  spells written := .joined written (fun _ => spells) fun _ pool => (spells pool).map _

theorem eq_singleton_of_writeHopCount {count : Nat} {written : Bytes}
    (accepted : SwapPath.writeHopCount count = .ok written) :
    ∃ byte : UInt8, written = [byte] ∧ byte.toNat = count := by
  unfold SwapPath.writeHopCount at accepted
  cases fits : Word.ofNat? 1 count with
  | none => simp [fits] at accepted
  | some word =>
    have same : word.val = count := Word.ofNat?_eq_some_iff.mp fits
    have below := word.isLt
    simp only [fits, Except.ok.injEq] at accepted
    refine ⟨UInt8.ofNat word.val, accepted.symm, ?_⟩
    rw [UInt8.toNat_ofNat', same]
    omega

instance : LawfulWire SwapPath where
  spells {path bytes} written := by
    refine .joined (Written.regroup written) (fun _ => spells) fun _ behind => ?_
    obtain ⟨_, hops, count, back, rfl⟩ := Written.append_eq_ok_iff.mp behind
    obtain ⟨byte, rfl, same⟩ := eq_singleton_of_writeHopCount count
    have items := Spells.manyAfter (fun _ _ => spells) back []
    refine (Spells.byte byte).bind ?_
    rw [same]
    exact items.map _

instance : LawfulWire SwapVenue where
  spells {venue bytes} written := by
    cases venue with
    | uniswapV3 path => exact .tagged written fun _ body => (spells body).map _
    | traderJoe path => exact .tagged written fun _ body => (spells body).map _
    | jupiterV6 program => exact .tagged written fun _ body => (spells body).map _

instance : LawfulWire OutputSwap where
  spells {swap bytes} written := by
    refine .joined (Written.regroup written) (fun _ => spells) fun _ behind => ?_
    exact .joined behind (fun _ => spells) fun _ venue => (spells venue).map _

instance : LawfulWire OutputToken where
  spells {token bytes} written := by
    cases token with
    | usdc =>
      cases written
      exact (Spells.byte 0).bind (.pure _)
    | gas swap => exact .tagged written fun _ body => (spells body).map _
    | other address swap =>
      refine .tagged (Written.regroup written) fun _ behind => ?_
      exact .joined behind (fun _ => spells) fun _ swap => (spells swap).map _

instance : LawfulWire GasDropoff where
  spells {dropoff bytes} written := by
    have units : Spells Wire.read bytes dropoff.units := spells written
    exact units.map _

instance : LawfulWire RedeemMode where
  spells {mode bytes} written := by
    cases mode with
    | direct =>
      cases written
      exact (Spells.byte 0).bind (.pure _)
    | payload sender body =>
      refine .tagged (Written.regroup written) fun _ behind => ?_
      exact .joined behind (fun _ => spells) fun _ body => (Spells.counted body).map _
    | relay gasDropoff fee =>
      refine .tagged (Written.regroup written) fun _ behind => ?_
      exact .joined behind (fun _ => spells) fun _ fee => (spells fee).map _

instance : LawfulWire SwapMessage where
  spells {message bytes} written := by
    refine .joined (Written.regroup written) (fun _ => spells) fun _ behind => ?_
    exact .joined behind (fun _ => spells) fun _ token => (spells token).map _

/-- Reading all of a written form gives the value back. -/
theorem decode_of_write {value : α} {bytes : Bytes} (written : Wire.write value = .ok bytes) :
    Wire.decode α bytes = .ok value := by
  have taken := (spells written).taken []
  rw [List.append_nil] at taken
  simp [Wire.decode, StateT.run, taken, bind, Except.bind]

end LawfulWire

theorem SwapMessage.decode_of_encode {message : SwapMessage} {bytes : Bytes}
    (encoded : message.encode = .ok bytes) : SwapMessage.decode bytes = .ok message := by
  obtain ⟨head, body, first, second, rfl⟩ := Written.append_eq_ok_iff.mp encoded
  cases first
  exact LawfulWire.decode_of_write second

end SwapRelay
