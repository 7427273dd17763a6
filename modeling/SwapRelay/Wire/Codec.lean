import SwapRelay.Wire.Error
import SwapRelay.Wire.Word

/-!
# Reading and writing

A reader takes a value from the front of its input and leaves the rest, so records are read field
by field. Reading a whole byte string demands that nothing is left. Writing may fail, because a byte
string can be longer than its length field can say; written parts are joined in order and the first
fault wins.
-/

namespace SwapRelay

/-- Takes a value from the front of the input. -/
abbrev Reader := StateT Bytes (Except DecodeError)

/-- The bytes of a value, or why it has none. -/
abbrev Written := Except EncodeError Bytes

namespace Written

/-- The first part, then the second; a fault of the first comes first. -/
protected def append (first second : Written) : Written := do
  return (← first) ++ (← second)

instance : Append Written := ⟨Written.append⟩

@[simp] theorem ok_append_ok (first second : Bytes) :
    (Except.ok first : Written) ++ (Except.ok second : Written) = .ok (first ++ second) := rfl

@[simp] theorem error_append (fault : EncodeError) (second : Written) :
    (Except.error fault : Written) ++ second = .error fault := rfl

@[simp] theorem ok_append_error (first : Bytes) (fault : EncodeError) :
    (Except.ok first : Written) ++ (Except.error fault : Written) = .error fault := rfl

theorem append_eq_ok_iff {first second : Written} {bytes : Bytes} :
    first ++ second = .ok bytes ↔
      ∃ front back, first = .ok front ∧ second = .ok back ∧ bytes = front ++ back := by
  cases first <;> cases second <;> simp [eq_comm]

end Written

/-- Values with a written form. -/
class Wire (α : Type) where
  write : α → Written
  read : Reader α

namespace Reader

variable {α : Type}

def fail (fault : DecodeError) : Reader α := fun _ => .error fault

def bytes (count : Nat) : Reader Bytes := fun input =>
  let parts := input.splitAt count
  if parts.1.length = count then .ok parts else .error .endOfInput

def byte : Reader UInt8
  | [] => .error .endOfInput
  | head :: rest => .ok (head, rest)

def word (n : Nat) : Reader (Word n) := fun input =>
  let parts := input.splitAt n
  if width : parts.1.length = n then .ok (Word.ofBytes parts.1 width, parts.2)
  else .error .endOfInput

/-- Takes a length of `width` bytes and then that many bytes. -/
def counted (width : Nat) : Reader Bytes := do
  let length ← word width
  bytes length.val

/-- Takes items until `count` more stand behind those already read, which come latest first. -/
def manyAfter (item : Reader α) : Nat → List α → Reader (List α)
  | 0, latestFirst, input => .ok (latestFirst.reverse, input)
  | count + 1, latestFirst, input =>
    match item input with
    | .error fault => .error fault
    | .ok (value, rest) => manyAfter item count (value :: latestFirst) rest

def many (item : Reader α) (count : Nat) : Reader (List α) := manyAfter item count []

end Reader

namespace Wire

variable {α : Type}

def tag (byte : UInt8) : Written := .ok [byte]

/-- The length in `width` bytes and then the bytes, if the length fits. -/
def writeCounted (width : Nat) (bytes : Bytes) : Written :=
  match Word.ofNat? width bytes.length with
  | some length => .ok (length.toBytes ++ bytes)
  | none => .error .lengthTooLarge

def writeMany (write : α → Written) (items : List α) : Written := do
  return (← items.mapM write).flatten

/-- Reads all of the bytes as one value. -/
def decode (α : Type) [Wire α] (input : Bytes) : Except DecodeError α := do
  let (value, rest) ← (read : Reader α).run input
  if rest.isEmpty then return value else throw .trailingBytes

instance (n : Nat) : Wire (Word n) where
  write word := .ok word.toBytes
  read := Reader.word n

/-- A flag byte says whether a value follows. -/
instance [Wire α] : Wire (Option α) where
  write
    | none => tag 0
    | some value => tag 1 ++ write value
  read := do
    match ← Reader.byte with
    | 0 => return none
    | 1 => return some (← read)
    | _ => Reader.fail .invalidFlag

end Wire

/-- A byte string sent behind its length, which takes `width` bytes. -/
structure CountedBytes (width : Nat) where
  bytes : Bytes
  deriving DecidableEq, Repr

namespace CountedBytes

variable {width : Nat}

instance : Wire (CountedBytes width) where
  write counted := Wire.writeCounted width counted.bytes
  read := return ⟨← Reader.counted width⟩

def writtenSize (counted : CountedBytes width) : Nat := width + counted.bytes.length

end CountedBytes
end SwapRelay
