import SwapRelay.Proofs.Fees

/-!
# Fees in order

A fee never falls when anything that it depends on rises. The fee without bounds is a sum of rounded
quotients of products, each of which keeps the order of its parts; and whatever stops a quote stops
every dearer one too, so what is quoted bounds all that is cheaper.
-/

namespace SwapRelay

/-- Neither part of the gas is more than that of the other venue. -/
structure VenueGas.AtMost (less more : VenueGas) : Prop where
  overhead : less.overhead ≤ more.overhead
  perSwap : less.perSwap ≤ more.perSwap

/-- No step uses more gas. -/
structure GasOverheads.AtMost (less more : GasOverheads) : Prop where
  base : less.base ≤ more.base
  dropoff : less.dropoff ≤ more.dropoff
  uniswapV3 : less.uniswapV3.AtMost more.uniswapV3
  traderJoe : less.traderJoe.AtMost more.traderJoe

/-- Neither the gas price nor the margin on it is higher. -/
structure EvmTerms.AtMost (less more : EvmTerms) : Prop where
  gasPrice : less.gasPrice.units ≤ more.gasPrice.units
  gasPriceMargin : less.gasPriceMargin ≤ more.gasPriceMargin

/-- Both are terms of EVM chains, and no price and no margin is higher. -/
structure RelayTerms.AtMost (less more : RelayTerms) : Prop where
  baseFee : less.baseFee ≤ more.baseFee
  nativeTokenPrice : less.nativeTokenPrice ≤ more.nativeTokenPrice
  gasDropoffMargin : less.gasDropoffMargin ≤ more.gasDropoffMargin
  evm : ∃ cheap dear, less.evm = some cheap ∧ more.evm = some dear ∧ cheap.AtMost dear

/-- A path at the same venue with no more hops. -/
inductive SwapVenue.NoLonger : SwapVenue → SwapVenue → Prop
  | uniswapV3 {short long : SwapPath} (hops : short.hops.length ≤ long.hops.length) :
    NoLonger (.uniswapV3 short) (.uniswapV3 long)
  | traderJoe {short long : SwapPath} (hops : short.hops.length ≤ long.hops.length) :
    NoLonger (.traderJoe short) (.traderJoe long)

/-- There is no swap, or one at the same venue with no more hops. -/
def OutputToken.NoLonger (short long : OutputToken) : Prop :=
  ∀ swap, short.swap? = some swap →
    ∃ other, long.swap? = some other ∧ swap.venue.NoLonger other.venue

theorem addMargin_mono {less more : Word 4} {small large : Nat} (margins : less ≤ more)
    (amounts : small ≤ large) : addMargin less small ≤ addMargin more large := by
  have products : small * less.val ≤ large * more.val := Nat.mul_le_mul amounts margins
  apply Nat.add_le_add amounts
  exact Nat.div_le_div_right products

namespace SwapVenue.NoLonger

variable {short long : SwapVenue}

theorem hasPath (route : short.NoLonger long) : short.HasPath := by
  cases route <;> trivial

theorem swapCount_le (route : short.NoLonger long) : short.swapCount ≤ long.swapCount := by
  cases route with
  | uniswapV3 hops => exact Nat.succ_le_succ hops
  | traderJoe hops => exact Nat.succ_le_succ hops

theorem refl (traded : short.HasPath) : short.NoLonger short := by
  cases short with
  | uniswapV3 path => exact .uniswapV3 (Nat.le_refl _)
  | traderJoe path => exact .traderJoe (Nat.le_refl _)
  | jupiterV6 program => exact traded.elim

end SwapVenue.NoLonger

theorem OutputToken.NoLonger.refl {token : OutputToken} (traded : token.Traded) :
    token.NoLonger token := by
  intro swap swapped
  exact ⟨swap, swapped, .refl (traded swap swapped)⟩

theorem VenueGas.AtMost.refl (venue : VenueGas) : venue.AtMost venue :=
  ⟨Nat.le_refl _, Nat.le_refl _⟩

theorem GasOverheads.AtMost.refl (overheads : GasOverheads) : overheads.AtMost overheads :=
  ⟨Nat.le_refl _, Nat.le_refl _, .refl _, .refl _⟩

theorem RelayTerms.AtMost.refl {terms : RelayTerms} {evm : EvmTerms}
    (priced : terms.evm = some evm) : terms.AtMost terms :=
  ⟨Nat.le_refl _, Nat.le_refl _, Nat.le_refl _, evm, evm, priced, priced, Nat.le_refl _,
    Nat.le_refl _⟩

section Gas

variable {low high : GasOverheads} {small large : GasDropoff} {short long : OutputToken}

theorem VenueGas.AtMost.forCount_le {less more : VenueGas} (gas : less.AtMost more)
    {few many : Nat} (counts : few ≤ many) : less.forCount few ≤ more.forCount many := by
  apply Nat.add_le_add gas.overhead
  exact Nat.mul_le_mul gas.perSwap counts

theorem GasOverheads.AtMost.swapGas_le (gas : low.AtMost high) {venue other : SwapVenue}
    (route : venue.NoLonger other) : low.swapGas venue ≤ high.swapGas other := by
  cases route with
  | uniswapV3 hops => exact gas.uniswapV3.forCount_le (Nat.succ_le_succ hops)
  | traderJoe hops => exact gas.traderJoe.forCount_le (Nat.succ_le_succ hops)

theorem GasOverheads.AtMost.gas_le (gas : low.AtMost high) (dropoffs : small.units ≤ large.units)
    (route : short.NoLonger long) : low.gas small short ≤ high.gas large long := by
  have delivery : low.base.val + (if 0 < small.units.val then low.dropoff.val else 0) ≤
      high.base.val + if 0 < large.units.val then high.dropoff.val else 0 := by
    apply Nat.add_le_add gas.base
    -- A drop-off that is not zero does not become zero.
    split
    · rename_i wanted
      rw [if_pos (Nat.lt_of_lt_of_le wanted dropoffs)]
      exact gas.dropoff
    · exact Nat.zero_le _
  unfold GasOverheads.gas
  apply Nat.add_le_add delivery
  cases swapped : short.swap? with
  | none => exact Nat.zero_le _
  | some swap =>
    obtain ⟨other, found, path⟩ := route swap swapped
    rw [found]
    exact gas.swapGas_le path

end Gas

namespace RelayTerms.AtMost

variable {cheap dear : RelayTerms} (prices : cheap.AtMost dear)

include prices

theorem priceOf_le {small large : Nat} (amounts : small ≤ large) :
    cheap.priceOf small ≤ dear.priceOf large := by
  apply Nat.div_le_div_right
  exact Nat.mul_le_mul amounts prices.nativeTokenPrice

theorem dropoffDue_le {small large : GasDropoff} (dropoffs : small.units ≤ large.units) :
    cheap.dropoffDue small ≤ dear.dropoffDue large := by
  unfold dropoffDue
  split
  · rename_i wanted
    rw [if_pos (Nat.lt_of_lt_of_le wanted dropoffs)]
    apply addMargin_mono prices.gasDropoffMargin
    apply prices.priceOf_le
    exact Nat.mul_le_mul_right _ dropoffs
  · exact Nat.zero_le _

theorem gasDue_le {less more : EvmTerms} (evm : less.AtMost more) {little much : Nat}
    (gas : little ≤ much) : cheap.gasDue less little ≤ dear.gasDue more much := by
  apply addMargin_mono evm.gasPriceMargin
  apply prices.priceOf_le
  apply Nat.mul_le_mul gas
  exact Nat.mul_le_mul_right _ evm.gasPrice

end RelayTerms.AtMost

/-- What a fee depends on. -/
structure FeeInput where
  terms : RelayTerms
  overheads : GasOverheads
  dropoff : GasDropoff
  token : OutputToken

namespace FeeInput

def fee (input : FeeInput) : Except SwapError (Word 6) :=
  input.terms.relayerFee input.overheads input.dropoff input.token

/-- No number is greater and no path longer, and the drop-off is within the maximum. -/
structure AtMost (less more : FeeInput) : Prop where
  terms : less.terms.AtMost more.terms
  overheads : less.overheads.AtMost more.overheads
  dropoff : less.dropoff.units ≤ more.dropoff.units
  allowed : less.dropoff.units ≤ less.terms.maxGasDropoff.units
  token : less.token.NoLonger more.token

namespace AtMost

variable {less more : FeeInput} (below : less.AtMost more)

include below

theorem gas_le :
    less.overheads.gas less.dropoff less.token ≤ more.overheads.gas more.dropoff more.token :=
  below.overheads.gas_le below.dropoff below.token

theorem feeDue_le {cheap dear : EvmTerms} (evm : cheap.AtMost dear) :
    less.terms.feeDue cheap less.overheads less.dropoff less.token ≤
      more.terms.feeDue dear more.overheads more.dropoff more.token := by
  have flat := Nat.add_le_add below.terms.baseFee (below.terms.dropoffDue_le below.dropoff)
  apply Nat.add_le_add flat
  exact below.terms.gasDue_le evm below.gas_le

theorem quotable {dear : EvmTerms}
    (quotable : more.terms.Quotable dear more.overheads more.dropoff more.token) :
    ∃ cheap, less.terms.Quotable cheap less.overheads less.dropoff less.token ∧
      less.terms.feeDue cheap less.overheads less.dropoff less.token ≤
        more.terms.feeDue dear more.overheads more.dropoff more.token := by
  obtain ⟨cheap, _, priced, found, evm⟩ := below.terms.evm
  cases found.symm.trans quotable.priced
  have fee := below.feeDue_le evm
  -- The greatest base fee, which disables relaying, is not that of the dearer terms.
  have enabled : less.terms.baseFee.val ≠ 4294967295 := by
    have baseFee : less.terms.baseFee.val ≤ more.terms.baseFee.val := below.terms.baseFee
    have := quotable.enabled
    have := more.terms.baseFee.isLt
    omega
  have traded : less.token.Traded := by
    intro swap swapped
    obtain ⟨other, -, path⟩ := below.token swap swapped
    exact path.hasPath
  exact ⟨cheap, ⟨enabled, .inl below.allowed, priced, traded,
    Nat.lt_of_le_of_lt below.gas_le quotable.gas_lt, Nat.lt_of_le_of_lt fee quotable.fee_lt⟩, fee⟩

theorem counted (counted : more.token.Counted) : less.token.Counted := by
  intro swap swapped
  obtain ⟨other, found, path⟩ := below.token swap swapped
  exact Nat.lt_of_le_of_lt path.swapCount_le (counted other found)

end AtMost

/-- A fee never falls when anything that it depends on rises: an input of which no number is greater
and no path longer is quoted a fee, and not a greater one. In particular a greater drop-off within
the maximum never costs less than a smaller one or none. -/
theorem relayerFee_monotone :
    (∀ less more : FeeInput, less.AtMost more → ∀ fee, more.fee = .ok fee →
      ∃ lower, less.fee = .ok lower ∧ lower ≤ fee) ∧
    ∀ (terms : RelayTerms) (overheads : GasOverheads) (token : OutputToken)
      (small large : GasDropoff), small.units ≤ large.units →
      large.units ≤ terms.maxGasDropoff.units →
      ∀ fee, terms.relayerFee overheads large token = .ok fee →
        ∃ lower, terms.relayerFee overheads small token = .ok lower ∧ lower ≤ fee := by
  have monotone (less more : FeeInput) (below : less.AtMost more) (fee : Word 6)
      (quoted : more.fee = .ok fee) : ∃ lower, less.fee = .ok lower ∧ lower ≤ fee := by
    obtain ⟨counted, dear, quotable, exact⟩ := RelayTerms.relayerFee_eq_ok_iff.mp quoted
    obtain ⟨cheap, cheaper, le⟩ := below.quotable quotable
    rw [← exact] at le
    exact ⟨⟨_, cheaper.fee_lt⟩, RelayTerms.relayerFee_eq_ok_iff.mpr
      ⟨below.counted counted, cheap, cheaper, rfl⟩, le⟩
  refine ⟨monotone, ?_⟩
  intro terms overheads token small large dropoffs allowed fee quoted
  obtain ⟨-, evm, quotable, -⟩ := RelayTerms.relayerFee_eq_ok_iff.mp quoted
  have below : AtMost ⟨terms, overheads, small, token⟩ ⟨terms, overheads, large, token⟩ :=
    ⟨.refl quotable.priced, .refl overheads, dropoffs, Nat.le_trans dropoffs allowed,
      .refl quotable.traded⟩
  exact monotone _ _ below fee quoted

def plainTerms : RelayTerms :=
  ⟨1000000, 200000000, ⟨500000⟩, 0, some ⟨⟨5000⟩, 0⟩, ⟨10, 30⟩⟩

theorem plain_fee_le_threeHop_fee :
    let less : FeeInput := ⟨plainTerms, .standard, ⟨0⟩, .usdc⟩
    let more : FeeInput := ⟨RelayTerms.marginTerms, .standard, ⟨50000⟩, RelayTerms.threeHopToken⟩
    less.AtMost more ∧ ∃ fee lower middle, more.fee = .ok fee ∧ less.fee = .ok lower ∧
      lower ≤ fee ∧
      RelayTerms.marginTerms.relayerFee .standard ⟨20000⟩ RelayTerms.threeHopToken = .ok middle ∧
      middle ≤ fee := by
  intro less more
  have below : less.AtMost more := by
    refine ⟨?_, .refl _, by decide, by decide, nofun⟩
    exact ⟨by decide, by decide, by decide, _, _, rfl, rfl, by decide, by decide⟩
  have quoted : more.fee = .ok ⟨_, RelayTerms.quotable_threeHopToken.fee_lt⟩ :=
    RelayTerms.relayerFee_eq_ok_iff.mpr
      ⟨RelayTerms.counted_threeHopToken, _, RelayTerms.quotable_threeHopToken, rfl⟩
  obtain ⟨lower, first, le⟩ := relayerFee_monotone.1 less more below _ quoted
  obtain ⟨middle, second, within⟩ := relayerFee_monotone.2 _ _ _ ⟨20000⟩ ⟨50000⟩ (by decide)
    (by decide) _ quoted
  exact ⟨below, _, lower, middle, quoted, first, le, second, within⟩

end FeeInput
end SwapRelay
