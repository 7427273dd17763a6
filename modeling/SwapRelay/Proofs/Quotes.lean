import SwapRelay.Proofs.Refusals

/-!
# Quotes

What is known of a quoted fee without computing it: the venue of its swap is one that gas is charged
for, and a quote can be refused only for reasons of its own, which name no missing record and no
fault of a message or of a router.
-/

namespace SwapRelay

/-- The reasons for which there is no quote. -/
def SwapError.IsQuoteFault : SwapError → Prop
  | .relayingDisabled | .gasDropoffTooHigh | .unsupportedSwapVenue
  | .unsupportedExecutionEnvironment | .amountOverflow | .relayerFeeOverflow => True
  | _ => False

/-- The reasons for which there may be no quote for a drop-off within the peer's maximum are of this
kind. -/
structure CoversQuoteFaults (kind : SwapError → Prop) : Prop where
  disabled : kind .relayingDisabled
  venue : kind .unsupportedSwapVenue
  environment : kind .unsupportedExecutionEnvironment
  overflow : kind .amountOverflow
  feeOverflow : kind .relayerFeeOverflow

namespace GasOverheads

variable (overheads : GasOverheads)

section Refusals

variable {kind : SwapError → Prop} (covers : CoversQuoteFaults kind)

include covers

theorem forSwaps_refusesOnly (venue : VenueGas) (swapCount : Nat) :
    RefusesOnly (forSwaps venue swapCount) kind :=
  .bind (.within covers.overflow) fun _ => .bind (.within covers.overflow) fun _ =>
    .within covers.overflow

theorem forVenue_refusesOnly (venue : SwapVenue) : RefusesOnly (overheads.forVenue venue) kind := by
  cases venue with
  | uniswapV3 path => exact forSwaps_refusesOnly covers _ _
  | traderJoe path => exact forSwaps_refusesOnly covers _ _
  | jupiterV6 program => exact .error covers.venue

theorem total_refusesOnly (dropoff : GasDropoff) (token : OutputToken) :
    RefusesOnly (overheads.total dropoff token) kind := by
  have delivery : RefusesOnly (overheads.forDelivery dropoff) kind := by
    unfold forDelivery
    split
    · exact .ok _
    · exact .within covers.overflow
  refine .bind delivery fun gas => ?_
  split
  · exact .bind (overheads.forVenue_refusesOnly covers _) fun _ => .within covers.overflow
  · exact .ok gas

end Refusals

theorem venue_ne_of_total {dropoff : GasDropoff} {token : OutputToken} {swap : OutputSwap}
    {gas : Word 8} (charged : overheads.total dropoff token = .ok gas)
    (swapped : token.swap? = some swap) (program : Option Address) :
    swap.venue ≠ .jupiterV6 program := by
  intro unsupported
  unfold total at charged
  obtain ⟨_, -, charged⟩ := bind_eq_ok_iff.mp charged
  rw [swapped] at charged
  obtain ⟨swapGas, found, -⟩ := bind_eq_ok_iff.mp charged
  rw [unsupported] at found
  cases found

end GasOverheads

namespace RelayTerms

variable (terms : RelayTerms) (overheads : GasOverheads) (dropoff : GasDropoff)
  (token : OutputToken)

section Refusals

variable {kind : SwapError → Prop} (covers : CoversQuoteFaults kind)

include covers

theorem nativeCost_refusesOnly (margin : Word 4) (amount : Word 16) :
    RefusesOnly (terms.nativeCost margin amount) kind :=
  .bind (.within covers.overflow) fun _ => .bind (.within covers.overflow) fun _ =>
    .bind (.within covers.overflow) fun _ => .within covers.overflow

theorem gasCost_refusesOnly : RefusesOnly (terms.gasCost overheads dropoff token) kind := by
  unfold gasCost
  split
  · refine .bind (overheads.total_refusesOnly covers dropoff token) fun _ => ?_
    refine .bind (.within covers.overflow) fun _ => ?_
    exact terms.nativeCost_refusesOnly covers _ _
  · exact .error covers.environment

variable (tooHigh : ¬ dropoff.units ≤ terms.maxGasDropoff.units → kind .gasDropoffTooHigh)

include tooHigh

theorem dropoffCost_refusesOnly : RefusesOnly (terms.dropoffCost dropoff) kind := by
  unfold dropoffCost
  split
  · exact .ok _
  · refine .bind (.require_of tooHigh) fun _ => .bind (.within covers.overflow) fun _ => ?_
    exact terms.nativeCost_refusesOnly covers _ _

/-- A drop-off is refused as too high only if it is. -/
theorem relayerFee_refusesOnly_of :
    RefusesOnly (terms.relayerFee overheads dropoff token) kind := by
  refine .bind (.require covers.disabled) fun _ => ?_
  refine .bind (terms.dropoffCost_refusesOnly dropoff covers tooHigh) fun _ => ?_
  refine .bind (.within covers.overflow) fun _ => ?_
  refine .bind (terms.gasCost_refusesOnly overheads dropoff token covers) fun _ => ?_
  refine .bind (.within covers.overflow) fun _ => ?_
  split
  · exact .ok _
  · exact .error covers.feeOverflow

end Refusals

theorem relayerFee_refusesOnly :
    RefusesOnly (terms.relayerFee overheads dropoff token) SwapError.IsQuoteFault := by
  have covers : CoversQuoteFaults SwapError.IsQuoteFault :=
    ⟨trivial, trivial, trivial, trivial, trivial⟩
  exact terms.relayerFee_refusesOnly_of overheads dropoff token covers fun _ => trivial

theorem venue_ne_of_relayerFee {terms : RelayTerms} {overheads : GasOverheads}
    {dropoff : GasDropoff} {token : OutputToken} {fee : Word 6}
    (quoted : terms.relayerFee overheads dropoff token = .ok fee) {swap : OutputSwap}
    (swapped : token.swap? = some swap) (program : Option Address) :
    swap.venue ≠ .jupiterV6 program := by
  obtain ⟨_, -, quoted⟩ := bind_eq_ok_iff.mp quoted
  obtain ⟨_, -, quoted⟩ := bind_eq_ok_iff.mp quoted
  obtain ⟨_, -, quoted⟩ := bind_eq_ok_iff.mp quoted
  obtain ⟨cost, charged, -⟩ := bind_eq_ok_iff.mp quoted
  unfold gasCost at charged
  split at charged
  · obtain ⟨gas, used, -⟩ := bind_eq_ok_iff.mp charged
    exact overheads.venue_ne_of_total used swapped program
  · cases charged

end RelayTerms
end SwapRelay
