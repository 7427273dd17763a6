import SwapRelay.Wire.Word

/-!
# Binary64 arithmetic in natural numbers

A nonnegative binary64 number is a multiple of the least positive one, `2 ^ -1074`, and is kept as
that multiple. An operation takes the exact quotient of two natural numbers and rounds it once, to
53 significant bits and to an even last bit on a tie. No number met here comes near the upper end of
the exponent range, so there is no overflow.
-/

namespace SwapRelay

/-- A nonnegative binary64 number: `units` times `2 ^ -1074`. -/
structure Binary64 where
  units : Nat
  deriving DecidableEq, Repr

namespace Binary64

def one : Nat := 1 <<< 1074

/-- The least number of units with 53 significant bits. -/
def normal : Nat := 1 <<< 52

/-- The natural number nearest to a quotient; a tie goes to the even one. -/
def nearestEven (num den : Nat) : Nat :=
  let floor := num / den
  let twice := 2 * (num % den)
  if den < twice ∨ twice = den ∧ floor % 2 = 1 then floor + 1 else floor

/-- The binary64 number nearest to `num / den` units. -/
def round (num den : Nat) : Binary64 :=
  let shift := (num / den).log2 + 1 - 53
  ⟨nearestEven num (den <<< shift) <<< shift⟩

def ofRatio (num den : Nat) : Binary64 := round (num * one) den

def ofNat (value : Nat) : Binary64 := ofRatio value 1

def mul (x y : Binary64) : Binary64 := round (x.units * y.units) one

def div (x y : Binary64) : Binary64 := round (x.units * one) y.units

instance : LE Binary64 := ⟨fun x y => x.units ≤ y.units⟩

instance : LT Binary64 := ⟨fun x y => x.units < y.units⟩

instance (x y : Binary64) : Decidable (x ≤ y) := inferInstanceAs (Decidable (x.units ≤ y.units))

instance (x y : Binary64) : Decidable (x < y) := inferInstanceAs (Decidable (x.units < y.units))

def roundHalfUp (x : Binary64) : Nat := (2 * x.units + one) / (2 * one)

/-- The number that 64 bits denote: a sign, eleven bits of exponent and 52 of fraction. Negative
numbers, infinities and not-a-numbers are refused; both zeros are zero. -/
def ofBits? (bits : Word 8) : Option Binary64 :=
  let negative := bits.val >>> 63 = 1
  let exponent := bits.val >>> 52 % 2048
  let fraction := bits.val % normal
  if exponent = 2047 then none
  else if exponent = 0 then
    if negative ∧ fraction ≠ 0 then none else some ⟨fraction⟩
  else if negative then none
  else some ⟨(normal + fraction) <<< (exponent - 1)⟩

def toBits (x : Binary64) : Nat :=
  if x.units < normal then x.units
  else
    let shift := x.units.log2 + 1 - 53
    (shift + 1) <<< 52 + (x.units >>> shift - normal)

end Binary64
end SwapRelay
