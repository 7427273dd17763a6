import SwapRelay.Proofs.Checks

/-!
# Exact fees

What a quote comes to in numbers without bounds, and that the bounded computation agrees with it. No
step of the computation is larger than its result, except for products that are divided right away;
and a product that is too large for sixteen bytes is too large for eight after the division. So the
only bounds that matter are those of the gas and of the fee itself.
-/

namespace SwapRelay

/-- The amount together with a margin in millionths of it, rounded down. -/
def addMargin (margin : Word 4) (amount : Nat) : Nat := amount + amount * margin.val / 1000000

namespace SwapVenue

/-- Relayers trade at the venues that take a path of pools. -/
def HasPath : SwapVenue → Prop
  | .uniswapV3 _ | .traderJoe _ => True
  | .jupiterV6 _ => False

def swapCount : SwapVenue → Nat
  | .uniswapV3 path | .traderJoe path => path.hops.length + 1
  | .jupiterV6 _ => 0

end SwapVenue

namespace OutputToken

/-- The swap, if there is one, is at a venue where relayers trade. -/
def Traded (token : OutputToken) : Prop :=
  ∀ swap, token.swap? = some swap → swap.venue.HasPath

/-- The swaps can be counted in eight bytes, like those on every path that fits a memory. -/
def Counted (token : OutputToken) : Prop :=
  ∀ swap, token.swap? = some swap → swap.venue.swapCount < 18446744073709551616

end OutputToken

def VenueGas.forCount (venue : VenueGas) (count : Nat) : Nat :=
  venue.overhead.val + venue.perSwap.val * count

namespace GasOverheads

/-- The gas for a swap, without bounds; nothing is charged at a venue without paths. -/
def swapGas (overheads : GasOverheads) : SwapVenue → Nat
  | .uniswapV3 path => overheads.uniswapV3.forCount (path.hops.length + 1)
  | .traderJoe path => overheads.traderJoe.forCount (path.hops.length + 1)
  | .jupiterV6 _ => 0

def gas (overheads : GasOverheads) (dropoff : GasDropoff) (token : OutputToken) : Nat :=
  overheads.base.val + (if 0 < dropoff.units.val then overheads.dropoff.val else 0) +
    match token.swap? with
    | some swap => overheads.swapGas swap.venue
    | none => 0

end GasOverheads

namespace RelayTerms

/-- The price of an amount of wei in the smallest units of USDC, rounded down. -/
def priceOf (terms : RelayTerms) (wei : Nat) : Nat :=
  wei * terms.nativeTokenPrice.val / 1000000000000000000

def dropoffDue (terms : RelayTerms) (dropoff : GasDropoff) : Nat :=
  if 0 < dropoff.units.val then
    addMargin terms.gasDropoffMargin (terms.priceOf (dropoff.units.val * 1000000000000))
  else 0

def gasDue (terms : RelayTerms) (evm : EvmTerms) (gas : Nat) : Nat :=
  addMargin evm.gasPriceMargin (terms.priceOf (gas * (evm.gasPrice.units.val * 1000000)))

/-- The fee, without bounds. -/
def feeDue (terms : RelayTerms) (evm : EvmTerms) (overheads : GasOverheads) (dropoff : GasDropoff)
    (token : OutputToken) : Nat :=
  terms.baseFee.val + terms.dropoffDue dropoff + terms.gasDue evm (overheads.gas dropoff token)

/-- What it takes to be quoted a fee: relaying is offered to an EVM chain, the drop-off is within
the maximum or zero, the swap is one that relayers make, and gas and fee fit their words. -/
structure Quotable (terms : RelayTerms) (evm : EvmTerms) (overheads : GasOverheads)
    (dropoff : GasDropoff) (token : OutputToken) : Prop where
  enabled : terms.baseFee.val ≠ 4294967295
  allowed : dropoff.units ≤ terms.maxGasDropoff.units ∨ dropoff.units = 0
  priced : terms.evm = some evm
  traded : token.Traded
  gas_lt : overheads.gas dropoff token < 18446744073709551616
  fee_lt : terms.feeDue evm overheads dropoff token < 281474976710656

end RelayTerms

theorem GasDropoff.isZero_iff {dropoff : GasDropoff} :
    dropoff.isZero ↔ ¬ 0 < dropoff.units.val := by
  rw [isZero, decide_eq_true_iff, Nat.not_lt, Nat.le_zero, Fin.ext_iff]
  rfl

theorem le_addMargin (margin : Word 4) (amount : Nat) : amount ≤ addMargin margin amount :=
  Nat.le_add_right _ _

theorem withMargin_eq_ok_iff {margin : Word 4} {amount total : Word 8} :
    withMargin margin amount = .ok total ↔ total.val = addMargin margin amount.val := by
  unfold withMargin addMargin
  simp only [bind_eq_ok_iff, within_eq_ok_iff]
  constructor
  · rintro ⟨product, same, sum⟩
    rw [sum, same]
    rfl
  · intro sum
    have product : amount.val * margin.val < 256 ^ 16 := by
      have bounded : amount.val * margin.val < 256 ^ 8 * 256 ^ 4 :=
        Nat.mul_lt_mul'' amount.isLt margin.isLt
      omega
    exact ⟨⟨_, product⟩, rfl, sum⟩

namespace GasOverheads

variable {overheads : GasOverheads}

theorem forSwaps_eq_ok_iff {venue : VenueGas} {count : Nat} {gas : Word 8} :
    forSwaps venue count = .ok gas ↔
      count < 18446744073709551616 ∧ gas.val = venue.forCount count := by
  unfold forSwaps VenueGas.forCount
  simp only [bind_eq_ok_iff, within_eq_ok_iff]
  constructor
  · rintro ⟨counted, rfl, perSwap, product, sum⟩
    rw [product] at sum
    exact ⟨counted.isLt, sum⟩
  · rintro ⟨counted, sum⟩
    have product : venue.perSwap.val * count < 256 ^ 8 := by
      have := gas.isLt
      omega
    exact ⟨⟨count, counted⟩, rfl, ⟨_, product⟩, rfl, sum⟩

theorem forVenue_eq_ok_iff {venue : SwapVenue} {gas : Word 8} :
    overheads.forVenue venue = .ok gas ↔
      venue.HasPath ∧ venue.swapCount < 18446744073709551616 ∧
        gas.val = overheads.swapGas venue := by
  cases venue with
  | uniswapV3 path =>
    refine Iff.trans ?_ (and_iff_right trivial).symm
    exact forSwaps_eq_ok_iff
  | traderJoe path =>
    refine Iff.trans ?_ (and_iff_right trivial).symm
    exact forSwaps_eq_ok_iff
  | jupiterV6 program => simp [forVenue, SwapVenue.HasPath]

theorem forDelivery_eq_ok_iff {dropoff : GasDropoff} {gas : Word 8} :
    overheads.forDelivery dropoff = .ok gas ↔
      gas.val =
        overheads.base.val + if 0 < dropoff.units.val then overheads.dropoff.val else 0 := by
  unfold forDelivery
  by_cases wanted : 0 < dropoff.units.val
  · have nonzero : ¬ dropoff.isZero := fun zero => GasDropoff.isZero_iff.mp zero wanted
    rw [if_neg nonzero, if_pos wanted, within_eq_ok_iff]
  · rw [if_pos (GasDropoff.isZero_iff.mpr wanted), if_neg wanted, Except.ok.injEq, eq_comm,
      Fin.ext_iff]
    rfl

theorem total_eq_ok_iff {dropoff : GasDropoff} {token : OutputToken} {gas : Word 8} :
    overheads.total dropoff token = .ok gas ↔
      token.Traded ∧ token.Counted ∧ gas.val = overheads.gas dropoff token := by
  unfold total GasOverheads.gas OutputToken.Traded OutputToken.Counted
  simp only [bind_eq_ok_iff, forDelivery_eq_ok_iff]
  cases token.swap? with
  | none =>
    simp only [pure_eq_ok_iff, reduceCtorEq, false_imp_iff, implies_true, true_and]
    constructor
    · rintro ⟨delivery, same, rfl⟩
      exact same
    · intro same
      exact ⟨gas, same, rfl⟩
  | some swap =>
    simp only [bind_eq_ok_iff, forVenue_eq_ok_iff, within_eq_ok_iff, Option.some.injEq,
      forall_eq']
    constructor
    · rintro ⟨delivery, first, swapGas, ⟨traded, counted, second⟩, sum⟩
      rw [first, second] at sum
      exact ⟨traded, counted, sum⟩
    · rintro ⟨traded, counted, sum⟩
      -- Both parts are at most the sum, which fits.
      have whole : gas.val < 256 ^ 8 := gas.isLt
      rw [sum] at whole
      exact ⟨⟨_, Nat.lt_of_le_of_lt (Nat.le_add_right _ _) whole⟩, rfl,
        ⟨_, Nat.lt_of_le_of_lt (Nat.le_add_left _ _) whole⟩, ⟨traded, counted, rfl⟩, sum⟩

end GasOverheads

namespace RelayTerms

variable {terms : RelayTerms} {overheads : GasOverheads} {dropoff : GasDropoff}
  {token : OutputToken}

theorem not_isDisabled_iff : !terms.isDisabled ↔ terms.baseFee.val ≠ 4294967295 := by
  rw [isDisabled, Bool.not_eq_true', decide_eq_false_iff_not, Fin.ext_iff]
  rfl

theorem nativeCost_eq_ok_iff {margin : Word 4} {amount : Word 16} {cost : Word 8} :
    terms.nativeCost margin amount = .ok cost ↔
      cost.val = addMargin margin (terms.priceOf amount.val) := by
  unfold nativeCost
  simp only [bind_eq_ok_iff, within_eq_ok_iff, withMargin_eq_ok_iff]
  constructor
  · rintro ⟨product, same, price, divided, sum⟩
    rw [divided, same] at sum
    exact sum
  · intro sum
    have price : terms.priceOf amount.val < 256 ^ 8 := by
      apply Nat.lt_of_le_of_lt (le_addMargin margin _)
      rw [← sum]
      exact cost.isLt
    -- A larger product would leave a larger price.
    have product : amount.val * terms.nativeTokenPrice.val < 256 ^ 16 := by
      have below := Nat.lt_mul_of_div_lt price (by decide)
      omega
    exact ⟨⟨_, product⟩, rfl, ⟨_, price⟩, rfl, sum⟩

theorem dropoffCost_eq_ok_iff {cost : Word 8} :
    terms.dropoffCost dropoff = .ok cost ↔
      (dropoff.units ≤ terms.maxGasDropoff.units ∨ dropoff.units = 0) ∧
        cost.val = terms.dropoffDue dropoff := by
  unfold dropoffCost dropoffDue
  by_cases wanted : 0 < dropoff.units.val
  · have nonzero : ¬ dropoff.isZero := fun zero => GasDropoff.isZero_iff.mp zero wanted
    have wei : dropoff.wei < 256 ^ 16 := by
      have := dropoff.units.isLt
      unfold GasDropoff.wei GasDropoff.unit
      omega
    rw [if_neg nonzero, if_pos wanted, or_iff_left (Fin.ne_of_gt wanted)]
    simp only [bind_eq_ok_iff, require_eq_ok_iff, within_eq_ok_iff, nativeCost_eq_ok_iff,
      exists_const]
    refine and_congr_right fun _ => ?_
    constructor
    · rintro ⟨amount, same, sum⟩
      rw [same] at sum
      exact sum
    · intro sum
      exact ⟨⟨_, wei⟩, rfl, sum⟩
  · have zero : dropoff.units = 0 := Fin.ext (Nat.eq_zero_of_not_pos wanted)
    rw [if_pos (GasDropoff.isZero_iff.mpr wanted), if_neg wanted, and_iff_right (.inr zero),
      Except.ok.injEq, eq_comm, Fin.ext_iff]
    rfl

theorem gasCost_eq_ok_iff {cost : Word 8} :
    terms.gasCost overheads dropoff token = .ok cost ↔
      ∃ evm, terms.evm = some evm ∧ token.Traded ∧ token.Counted ∧
        overheads.gas dropoff token < 18446744073709551616 ∧
        cost.val = terms.gasDue evm (overheads.gas dropoff token) := by
  unfold gasCost
  cases terms.evm with
  | none => simp
  | some evm =>
    simp only [bind_eq_ok_iff, GasOverheads.total_eq_ok_iff, within_eq_ok_iff,
      nativeCost_eq_ok_iff, Option.some.injEq, exists_eq_left']
    constructor
    · rintro ⟨gas, ⟨traded, counted, used⟩, wei, same, sum⟩
      rw [same, used] at sum
      refine ⟨traded, counted, ?_, sum⟩
      rw [← used]
      exact gas.isLt
    · rintro ⟨traded, counted, fits, sum⟩
      have price : evm.gasPrice.wei < 256 ^ 8 := by
        have := evm.gasPrice.units.isLt
        unfold GasPrice.wei GasPrice.unit
        omega
      have wei : overheads.gas dropoff token * evm.gasPrice.wei < 256 ^ 16 := by
        have bounded : overheads.gas dropoff token * evm.gasPrice.wei < 256 ^ 8 * 256 ^ 8 :=
          Nat.mul_lt_mul'' fits price
        omega
      exact ⟨⟨_, fits⟩, ⟨traded, counted, rfl⟩, ⟨_, wei⟩, rfl, sum⟩

theorem relayerFee_eq_ok_iff_sum {fee : Word 6} :
    terms.relayerFee overheads dropoff token = .ok fee ↔
      terms.baseFee.val ≠ 4294967295 ∧ ∃ dropoffCost gasCost,
        terms.dropoffCost dropoff = .ok dropoffCost ∧
        terms.gasCost overheads dropoff token = .ok gasCost ∧
        fee.val = terms.baseFee.val + dropoffCost.val + gasCost.val := by
  unfold relayerFee
  simp only [bind_eq_ok_iff, require_eq_ok_iff, within_eq_ok_iff, not_isDisabled_iff, exists_const]
  constructor
  · rintro ⟨enabled, dropoffCost, first, flat, base, gasCost, second, total, sum, quoted⟩
    refine ⟨enabled, dropoffCost, gasCost, first, second, ?_⟩
    split at quoted
    · rename_i short shortened
      cases quoted
      rw [Word.ofNat?_eq_some_iff.mp shortened, sum, base]
    · cases quoted
  · rintro ⟨enabled, dropoffCost, gasCost, first, second, sum⟩
    have whole := fee.isLt
    have flat : terms.baseFee.val + dropoffCost.val < 256 ^ 8 := by omega
    have total : terms.baseFee.val + dropoffCost.val + gasCost.val < 256 ^ 8 := by omega
    refine ⟨enabled, dropoffCost, first, ⟨_, flat⟩, rfl, gasCost, second, ⟨_, total⟩, rfl, ?_⟩
    rw [Word.ofNat?_eq_some_iff.mpr sum]
    rfl

theorem relayerFee_eq_ok_iff {fee : Word 6} :
    terms.relayerFee overheads dropoff token = .ok fee ↔
      token.Counted ∧ ∃ evm, terms.Quotable evm overheads dropoff token ∧
        fee.val = terms.feeDue evm overheads dropoff token := by
  rw [relayerFee_eq_ok_iff_sum]
  simp only [dropoffCost_eq_ok_iff, gasCost_eq_ok_iff]
  constructor
  · rintro ⟨enabled, dropoffCost, gasCost, ⟨allowed, first⟩,
      ⟨evm, priced, traded, counted, gas_lt, second⟩, sum⟩
    rw [first, second] at sum
    change fee.val = terms.feeDue evm overheads dropoff token at sum
    have fee_lt : terms.feeDue evm overheads dropoff token < 281474976710656 := by
      rw [← sum]
      exact fee.isLt
    exact ⟨counted, evm, ⟨enabled, allowed, priced, traded, gas_lt, fee_lt⟩, sum⟩
  · rintro ⟨counted, evm, ⟨enabled, allowed, priced, traded, gas_lt, fee_lt⟩, sum⟩
    unfold feeDue at sum fee_lt
    have dropoffCost : terms.dropoffDue dropoff < 256 ^ 8 := by omega
    have gasCost : terms.gasDue evm (overheads.gas dropoff token) < 256 ^ 8 := by omega
    exact ⟨enabled, ⟨_, dropoffCost⟩, ⟨_, gasCost⟩, ⟨allowed, rfl⟩,
      ⟨evm, priced, traded, counted, gas_lt, rfl⟩, sum⟩

/-- A fee is quoted exactly if relaying is offered to an EVM chain, the drop-off is within the
maximum or zero, the swap, if there is one, is at a venue where relayers trade, the gas fits eight
bytes and the fee fits six. It is the fee without bounds then, so that nothing is lost on the way.
The swaps are counted in eight bytes, which no path in a memory exceeds. -/
theorem relayerFee_exact (terms : RelayTerms) (overheads : GasOverheads) (dropoff : GasDropoff)
    {token : OutputToken} (counted : token.Counted) :
    ((∃ fee, terms.relayerFee overheads dropoff token = .ok fee) ↔
      ∃ evm, terms.Quotable evm overheads dropoff token) ∧
    ∀ evm fee, terms.evm = some evm → terms.relayerFee overheads dropoff token = .ok fee →
      fee.val = terms.feeDue evm overheads dropoff token := by
  constructor
  · constructor
    · rintro ⟨fee, quoted⟩
      obtain ⟨-, evm, quotable, -⟩ := relayerFee_eq_ok_iff.mp quoted
      exact ⟨evm, quotable⟩
    · rintro ⟨evm, quotable⟩
      exact ⟨⟨_, quotable.fee_lt⟩, relayerFee_eq_ok_iff.mpr ⟨counted, evm, quotable, rfl⟩⟩
  · intro evm fee priced quoted
    obtain ⟨-, found, quotable, same⟩ := relayerFee_eq_ok_iff.mp quoted
    cases priced.symm.trans quotable.priced
    exact same

def marginTerms : RelayTerms :=
  ⟨1500000, 200000000, ⟨500000⟩, 500000, some ⟨⟨10000⟩, 250000⟩, ⟨10, 30⟩⟩

def threeHopToken : OutputToken :=
  .gas ⟨0, 0, .uniswapV3 ⟨500, List.replicate 3 ⟨1, 500⟩⟩⟩

theorem counted_threeHopToken : threeHopToken.Counted := by
  rintro _ ⟨⟩
  decide

theorem quotable_threeHopToken :
    marginTerms.Quotable ⟨⟨10000⟩, 250000⟩ .standard ⟨50000⟩ threeHopToken where
  enabled := by decide
  allowed := .inl (by decide)
  priced := rfl
  traded := by
    rintro _ ⟨⟩
    trivial
  gas_lt := by decide
  fee_lt := by decide

/-- The base fee, 15 USDC for the drop-off and 1.525 USDC for gas. -/
theorem threeHop_fee_exact :
    threeHopToken.Counted ∧
      marginTerms.Quotable ⟨⟨10000⟩, 250000⟩ .standard ⟨50000⟩ threeHopToken ∧
      ∃ fee, marginTerms.relayerFee .standard ⟨50000⟩ threeHopToken = .ok fee ∧
        fee.val = 18025000 := by
  have counted := counted_threeHopToken
  have quotable := quotable_threeHopToken
  obtain ⟨quoted, exact⟩ := relayerFee_exact marginTerms .standard ⟨50000⟩ counted
  obtain ⟨fee, quote⟩ := quoted.mpr ⟨_, quotable⟩
  exact ⟨counted, quotable, fee, quote, exact _ fee rfl quote⟩

end RelayTerms
end SwapRelay
