import SwapRelay.Proofs.Registry

/-!
# Sequences of fee updates

What updates make of the terms of one peer. Relay terms are seen as their prices and margins, each of
which is a number (`RelayTerms.value?`), and an update sets one of them. So behind a sequence of
updates every price and margin has the last value that was set for it, and the same updates once more
change nothing.
-/

namespace SwapRelay

/-- The prices and margins of relay terms. -/
inductive TermsField where
  | baseFee
  | nativeTokenPrice
  | maxGasDropoff
  | gasDropoffMargin
  | gasPrice
  | gasPriceMargin
  deriving DecidableEq, Repr

namespace FeeUpdate

/-- What an update sets a price or margin to, if it sets this one. -/
def value? : TermsField → FeeUpdate → Option Nat
  | .baseFee, .baseFee fee => some fee.val
  | .nativeTokenPrice, .gasTokenPrice price => some price.val
  | .maxGasDropoff, .maxGasDropoff dropoff => some dropoff.units.val
  | .gasDropoffMargin, .gasDropoffMargin margin => some margin.toMargin.val
  | .gasPrice, .gasPrice _ price => some price.units.val
  | .gasPriceMargin, .gasPriceMargin margin => some margin.toMargin.val
  | _, _ => none

/-- The update is of the threshold, which relay terms do not hold. -/
def SetsThreshold : FeeUpdate → Prop
  | .gasPriceUpdateThreshold _ => True
  | _ => False

def PricesGas : FeeUpdate → Prop
  | .gasPrice _ _ | .gasPriceMargin _ => True
  | _ => False

end FeeUpdate

def lastValue? (field : TermsField) (updates : List FeeUpdate) : Option Nat :=
  (updates.filterMap (·.value? field)).getLast?

theorem EvmTerms.option_ext {left right : Option EvmTerms}
    (price : left.map (·.gasPrice.units.val) = right.map (·.gasPrice.units.val))
    (margin : left.map (·.gasPriceMargin.val) = right.map (·.gasPriceMargin.val)) :
    left = right := by
  cases left with
  | none => cases right with
    | none => rfl
    | some evm => cases price
  | some former => cases right with
    | none => cases price
    | some latter =>
      obtain ⟨⟨units⟩, percent⟩ := former
      cases Fin.ext (Option.some.inj price)
      cases Fin.ext (Option.some.inj margin)
      rfl

namespace RelayTerms

variable {terms changed : RelayTerms} {update : FeeUpdate} {updates : List FeeUpdate}

/-- A price or margin of the terms. Those of gas are missing where the chain has none. -/
def value? (terms : RelayTerms) : TermsField → Option Nat
  | .baseFee => some terms.baseFee.val
  | .nativeTokenPrice => some terms.nativeTokenPrice.val
  | .maxGasDropoff => some terms.maxGasDropoff.units.val
  | .gasDropoffMargin => some terms.gasDropoffMargin.val
  | .gasPrice => terms.evm.map (·.gasPrice.units.val)
  | .gasPriceMargin => terms.evm.map (·.gasPriceMargin.val)

theorem ext_value? {left right : RelayTerms}
    (same : ∀ field, left.value? field = right.value? field)
    (limits : left.swapTimeLimit = right.swapTimeLimit) : left = right := by
  have baseFee : left.baseFee = right.baseFee := Fin.ext (Option.some.inj (same .baseFee))
  have nativeTokenPrice : left.nativeTokenPrice = right.nativeTokenPrice :=
    Fin.ext (Option.some.inj (same .nativeTokenPrice))
  have maxGasDropoff : left.maxGasDropoff = right.maxGasDropoff :=
    congrArg GasDropoff.mk (Fin.ext (Option.some.inj (same .maxGasDropoff)))
  have gasDropoffMargin : left.gasDropoffMargin = right.gasDropoffMargin :=
    Fin.ext (Option.some.inj (same .gasDropoffMargin))
  have evm : left.evm = right.evm :=
    EvmTerms.option_ext (same .gasPrice) (same .gasPriceMargin)
  obtain ⟨_, _, _, _, _, _⟩ := left
  cases baseFee
  cases nativeTokenPrice
  cases maxGasDropoff
  cases gasDropoffMargin
  cases evm
  cases limits
  rfl

theorem modifyEvm_eq_ok_iff {change : EvmTerms → EvmTerms} :
    terms.modifyEvm change = .ok changed ↔
      ∃ evm, terms.evm = some evm ∧ changed = { terms with evm := some (change evm) } := by
  unfold modifyEvm
  cases terms.evm with
  | none => simp
  | some evm => simp [eq_comm]

theorem value?_of_apply (applied : terms.apply update = .ok changed) (field : TermsField) :
    changed.value? field = (update.value? field).or (terms.value? field) := by
  cases update with
  | gasPrice timestamp price =>
    obtain ⟨evm, found, rfl⟩ := modifyEvm_eq_ok_iff.mp applied
    cases field <;> simp [value?, FeeUpdate.value?, found]
  | gasPriceMargin margin =>
    obtain ⟨evm, found, rfl⟩ := modifyEvm_eq_ok_iff.mp applied
    cases field <;> simp [value?, FeeUpdate.value?, found]
  | gasPriceUpdateThreshold threshold => cases applied
  | _ =>
    cases applied
    cases field <;> rfl

theorem exists_apply_iff :
    (∃ changed, terms.apply update = .ok changed) ↔
      ¬ update.SetsThreshold ∧ (update.PricesGas → terms.evm ≠ none) := by
  have modified (change : EvmTerms → EvmTerms) :
      (∃ changed, terms.modifyEvm change = .ok changed) ↔ terms.evm ≠ none := by
    simp only [modifyEvm_eq_ok_iff, Option.ne_none_iff_exists']
    constructor
    · rintro ⟨_, evm, found, -⟩
      exact ⟨evm, found⟩
    · rintro ⟨evm, found⟩
      exact ⟨_, evm, found, rfl⟩
  cases update with
  | gasPrice timestamp price =>
    exact (modified _).trans (by simp [FeeUpdate.SetsThreshold, FeeUpdate.PricesGas])
  | gasPriceMargin margin =>
    exact (modified _).trans (by simp [FeeUpdate.SetsThreshold, FeeUpdate.PricesGas])
  | gasPriceUpdateThreshold threshold => exact iff_of_false nofun fun applies => applies.1 trivial
  | _ => exact iff_of_true ⟨_, rfl⟩ ⟨id, nofun⟩

theorem evm_eq_none_iff_of_apply (applied : terms.apply update = .ok changed) :
    changed.evm = none ↔ terms.evm = none := by
  have priced (change : EvmTerms → EvmTerms) (modified : terms.modifyEvm change = .ok changed) :
      changed.evm = none ↔ terms.evm = none := by
    obtain ⟨evm, found, rfl⟩ := modifyEvm_eq_ok_iff.mp modified
    simp [found]
  cases update with
  | gasPrice timestamp price => exact priced _ applied
  | gasPriceMargin margin => exact priced _ applied
  | gasPriceUpdateThreshold threshold => cases applied
  | _ =>
    cases applied
    rfl

/-- Applies updates one after the other. The outcome has yet to be verified. -/
def applyAll (terms : RelayTerms) (updates : List FeeUpdate) : Except SwapError RelayTerms :=
  updates.foldlM apply terms

theorem applyAll_cons_eq_ok_iff :
    terms.applyAll (update :: updates) = .ok changed ↔
      ∃ next, terms.apply update = .ok next ∧ next.applyAll updates = .ok changed := by
  rw [applyAll, List.foldlM_cons, bind_eq_ok_iff]
  rfl

theorem applyAll_append_of_eq_ok (applied : terms.applyAll updates = .ok changed)
    (others : List FeeUpdate) : terms.applyAll (updates ++ others) = changed.applyAll others := by
  rw [applyAll, List.foldlM_append]
  change terms.applyAll updates >>= _ = _
  rw [applied]
  rfl

theorem swapTimeLimit_of_applyAll (applied : terms.applyAll updates = .ok changed) :
    changed.swapTimeLimit = terms.swapTimeLimit :=
  foldlM_invariant (P := fun later => later.swapTimeLimit = terms.swapTimeLimit)
    (fun _ _ _ step kept => (swapTimeLimit_of_apply step).trans kept) applied rfl

theorem evm_eq_none_iff_of_applyAll (applied : terms.applyAll updates = .ok changed) :
    changed.evm = none ↔ terms.evm = none :=
  foldlM_invariant (P := fun later => later.evm = none ↔ terms.evm = none)
    (fun _ _ _ step kept => (evm_eq_none_iff_of_apply step).trans kept) applied Iff.rfl

/-- Every price and margin has the last value that was set for it, or the one that it had. -/
theorem value?_of_applyAll (applied : terms.applyAll updates = .ok changed) (field : TermsField) :
    changed.value? field = (lastValue? field updates).or (terms.value? field) := by
  induction updates generalizing terms with
  | nil =>
    cases applied
    rfl
  | cons update later ih =>
    obtain ⟨next, first, applied⟩ := applyAll_cons_eq_ok_iff.mp applied
    rw [ih applied, value?_of_apply first, ← Option.or_assoc]
    unfold lastValue?
    rw [getLast?_filterMap_cons]

theorem exists_applyAll_iff :
    (∃ changed, terms.applyAll updates = .ok changed) ↔
      ∀ update ∈ updates, ¬ update.SetsThreshold ∧ (update.PricesGas → terms.evm ≠ none) := by
  induction updates generalizing terms with
  | nil => exact iff_of_true ⟨terms, rfl⟩ nofun
  | cons update later ih =>
    rw [List.forall_mem_cons, ← exists_apply_iff]
    constructor
    · rintro ⟨changed, applied⟩
      obtain ⟨next, first, applied⟩ := applyAll_cons_eq_ok_iff.mp applied
      have others := ih.mp ⟨changed, applied⟩
      rw [ne_eq, evm_eq_none_iff_of_apply first] at others
      exact ⟨⟨next, first⟩, others⟩
    · rintro ⟨⟨next, first⟩, others⟩
      rw [ne_eq, ← evm_eq_none_iff_of_apply first] at others
      obtain ⟨changed, applied⟩ := ih.mpr others
      exact ⟨changed, applyAll_cons_eq_ok_iff.mpr ⟨next, first, applied⟩⟩

theorem applyAll_again (applied : terms.applyAll updates = .ok changed) :
    changed.applyAll updates = .ok changed := by
  have applicable := exists_applyAll_iff.mp ⟨changed, applied⟩
  rw [ne_eq, ← evm_eq_none_iff_of_applyAll applied] at applicable
  obtain ⟨again, reapplied⟩ := exists_applyAll_iff.mpr applicable
  have same : again = changed := by
    refine ext_value? (fun field => ?_) (swapTimeLimit_of_applyAll reapplied)
    rw [value?_of_applyAll reapplied, value?_of_applyAll applied, ← Option.or_assoc, Option.or_self]
  rwa [same] at reapplied

end RelayTerms
end SwapRelay
