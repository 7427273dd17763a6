import SwapRelay.Value.Binary64
import SwapRelay.Value.Error
import SwapRelay.Wire.Codec

/-!
# Two-byte percentages

A percentage packs a 14-bit mantissa and a 2-bit exponent: it stands for `mantissa / 10 ^ (2 +
exponent)` percent, at most 100. The packing is lossy: a number keeps four digits at most.
-/

namespace SwapRelay

/-- A packed percentage. Only the exponent zero can express more than 100, which is excluded. -/
structure Percentage where
  raw : Word 2
  le_hundred : raw.val % 4 = 0 → raw.val / 4 ≤ 10000 := by decide
  deriving DecidableEq, Repr

namespace Percentage

def mantissa (p : Percentage) : Nat := p.raw.val / 4

def exponent (p : Percentage) : Nat := p.raw.val % 4

def zero : Percentage := { raw := 0 }

instance : Inhabited Percentage := ⟨zero⟩

/-- Accepts what expresses at most 100 percent. -/
def ofRaw (raw : Word 2) : Except ValueError Percentage :=
  if le_hundred : raw.val % 4 = 0 → raw.val / 4 ≤ 10000 then .ok ⟨raw, le_hundred⟩
  else .error .percentageTooLarge

def ofParts (mantissa exponent : Nat) : Except ValueError Percentage :=
  match Word.ofNat? 2 (4 * mantissa + exponent) with
  | some raw => ofRaw raw
  | none => .error .percentageTooLarge

/-- Drops final zeros of the mantissa while the exponent allows it. -/
def stripZeros (mantissa : Nat) : Nat → Nat × Nat
  | 0 => (mantissa, 0)
  | exponent + 1 =>
    if mantissa % 10 = 0 then stripZeros (mantissa / 10) exponent else (mantissa, exponent + 1)

/-- The exponent that leaves four digits to a number of at most 100, as far as there is one. -/
def exponentFor (percent : Binary64) : Nat :=
  if Binary64.ofNat 10 < percent then 0
  else if Binary64.ofNat 1 < percent then 1
  else if Binary64.ofRatio 1 10 < percent then 2
  else 3

/-- Packs a number of percent, rounded to the four digits that there is room for. What is below the
finest step, a hundred-thousandth of a percent, becomes zero. -/
def ofBinary64 (percent : Binary64) : Except ValueError Percentage :=
  if Binary64.ofNat 100 < percent then .error .percentageOutOfRange
  else if percent < Binary64.ofRatio 1 100000 then .ok zero
  else
    let exponent := exponentFor percent
    let mantissa := (percent.mul (Binary64.ofNat (10 ^ (2 + exponent)))).roundHalfUp
    let stripped := stripZeros mantissa exponent
    ofParts stripped.1 stripped.2

def ofBits (bits : Word 8) : Except ValueError Percentage :=
  match Binary64.ofBits? bits with
  | some percent => ofBinary64 percent
  | none => .error .percentageOutOfRange

def ofRatio (value full : Word 8) : Except ValueError Percentage :=
  if full = 0 ∨ full < value then .error .ratioOutOfRange
  else
    let hundredfold := (Binary64.ofNat value.val).mul (Binary64.ofNat 100)
    ofBinary64 (hundredfold.div (Binary64.ofNat full.val))

def toBinary64 (p : Percentage) : Binary64 :=
  Binary64.ofRatio p.mantissa (10 ^ (2 + p.exponent))

/-- The percentage of `full`, rounded down. -/
def scale (p : Percentage) (full : Word 8) : Word 8 :=
  (Word.ofNat? 8 (full.val * p.mantissa / 10 ^ (4 + p.exponent))).getD full

instance : Wire Percentage where
  write p := Wire.write p.raw
  read := do
    match ofRaw (← Wire.read) with
    | .ok p => return p
    | .error _ => Reader.fail .percentageTooLarge

end Percentage
end SwapRelay
