/-!
# Fixed-width words

A word of `n` bytes is a natural number below `256 ^ n`. Its written form is its `n` digits to base
256, most significant first. Addresses and prices are words like any other number, so one pair of
functions and one set of laws covers every field of fixed width. Main statements: the digits of a
word spell it (`Word.ofBytes_toBytes`), and every `n` bytes are the digits of the word they spell
(`Word.toBytes_ofBytes`).
-/

namespace SwapRelay

/-- A power of natural numbers is `Nat.pow`, whatever other structure on them is in scope. -/
instance (priority := 1100) natPow : Pow Nat Nat := instPowNat

/-- Bytes in the order in which they are sent. -/
abbrev Bytes := List UInt8

namespace Bytes

/-- The last `width` digits of a number to base 256, most significant first. -/
def ofNat : Nat → Nat → Bytes
  | 0, _ => []
  | width + 1, value => ofNat width (value / 256) ++ [UInt8.ofNat value]

/-- The number that digits to base 256 spell, most significant first. -/
def toNat (bytes : Bytes) : Nat :=
  bytes.foldl (fun high byte => high * 256 + byte.toNat) 0

@[simp] theorem length_ofNat (width value : Nat) : (ofNat width value).length = width := by
  induction width generalizing value with
  | zero => rfl
  | succ width ih => simp [ofNat, ih]

@[simp] theorem toNat_nil : toNat [] = 0 := rfl

theorem toNat_append_singleton (bytes : Bytes) (byte : UInt8) :
    toNat (bytes ++ [byte]) = toNat bytes * 256 + byte.toNat := by
  simp [toNat]

theorem toNat_ofNat (width value : Nat) : toNat (ofNat width value) = value % 256 ^ width := by
  induction width generalizing value with
  | zero => simp [ofNat, Nat.mod_one]
  | succ width ih =>
    have digit : (UInt8.ofNat value).toNat = value % 256 := by simp
    rw [ofNat, toNat_append_singleton, ih, digit, Nat.pow_succ, Nat.mul_comm (256 ^ width) 256,
      Nat.mod_mul]
    omega

theorem toNat_lt (bytes : Bytes) : toNat bytes < 256 ^ bytes.length := by
  obtain ⟨digits, rfl⟩ : ∃ digits, bytes = digits.reverse := ⟨bytes.reverse, by simp⟩
  induction digits with
  | nil => simp
  | cons byte digits ih =>
    have := byte.toNat_lt
    rw [List.reverse_cons, toNat_append_singleton, List.length_append, List.length_singleton,
      Nat.pow_succ]
    omega

/-- No two byte strings of one length spell the same number. -/
theorem ofNat_toNat (bytes : Bytes) : ofNat bytes.length (toNat bytes) = bytes := by
  obtain ⟨digits, rfl⟩ : ∃ digits, bytes = digits.reverse := ⟨bytes.reverse, by simp⟩
  induction digits with
  | nil => rfl
  | cons byte digits ih =>
    have high : (toNat digits.reverse * 256 + byte.toNat) / 256 = toNat digits.reverse := by
      have := byte.toNat_lt
      omega
    have low : UInt8.ofNat (toNat digits.reverse * 256 + byte.toNat) = byte := by
      apply UInt8.toNat_inj.mp
      have := byte.toNat_lt
      simp
    rw [List.reverse_cons, toNat_append_singleton, List.length_append, List.length_singleton, ofNat,
      high, low, ih]

end Bytes

/-- A number that fits `n` bytes. -/
abbrev Word (n : Nat) := Fin (256 ^ n)

namespace Word

variable {n : Nat}

instance (value : Nat) : OfNat (Word n) value := Fin.instOfNat

/-- Accepts the numbers that fit `n` bytes. -/
def ofNat? (n value : Nat) : Option (Word n) :=
  if fits : value < 256 ^ n then some ⟨value, fits⟩ else none

def greatest (n : Nat) : Word n :=
  ⟨256 ^ n - 1, Nat.sub_lt (Nat.pow_pos (by decide)) (by decide)⟩

def widen (m : Nat) (word : Word n) (wider : n ≤ m := by decide) : Word m :=
  ⟨word.val, Nat.lt_of_lt_of_le word.isLt (Nat.pow_le_pow_right (by decide) wider)⟩

/-- The digits of a word, most significant first. -/
def toBytes (word : Word n) : Bytes := Bytes.ofNat n word.val

def ofBytes (bytes : Bytes) (width : bytes.length = n) : Word n :=
  ⟨bytes.toNat, width ▸ bytes.toNat_lt⟩

def ofBytes? (n : Nat) (bytes : Bytes) : Option (Word n) :=
  if width : bytes.length = n then some (ofBytes bytes width) else none

@[simp] theorem length_toBytes (word : Word n) : word.toBytes.length = n :=
  Bytes.length_ofNat n word.val

@[simp] theorem ofBytes_toBytes (word : Word n) : ofBytes word.toBytes word.length_toBytes = word := by
  apply Fin.ext
  simp [ofBytes, toBytes, Bytes.toNat_ofNat, Nat.mod_eq_of_lt word.isLt]

@[simp] theorem toBytes_ofBytes (bytes : Bytes) (width : bytes.length = n) :
    (ofBytes bytes width).toBytes = bytes := by
  subst width
  exact Bytes.ofNat_toNat bytes

theorem ofNat?_eq_some_iff {value : Nat} {word : Word n} :
    ofNat? n value = some word ↔ word.val = value := by
  unfold ofNat?
  split
  · simp [Fin.ext_iff, eq_comm]
  · have := word.isLt
    simp
    omega

end Word
end SwapRelay
