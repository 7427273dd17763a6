import SwapRelay.Wire.Codec

/-!
# Batches

Administrative calls carry their records as a batch: the number of records in four bytes, least
significant first, and then the records.
-/

namespace SwapRelay

/-- Records that travel together. -/
structure Batch (α : Type) where
  items : List α
  deriving DecidableEq, Repr

namespace Batch

variable {α : Type}

/-- The count in four bytes, least significant first. -/
def writeCount (count : Word 4) : Written := .ok count.toBytes.reverse

def readCount : Reader (Word 4) := fun input =>
  let parts := input.splitAt 4
  if width : parts.1.length = 4 then
    .ok (Word.ofBytes parts.1.reverse (by simpa using width), parts.2)
  else .error .endOfInput

instance [Wire α] : Wire (Batch α) where
  write batch :=
    match Word.ofNat? 4 batch.items.length with
    | some count => writeCount count ++ Wire.writeMany Wire.write batch.items
    | none => .error .batchTooLarge
  read := do
    let count ← readCount
    return ⟨← Reader.many Wire.read count.val⟩

end Batch
end SwapRelay
