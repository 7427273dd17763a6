import SwapRelay.Proofs.AdministrativeRecords
import SwapRelay.Proofs.FeeUpdates
import SwapRelay.Proofs.Refusals

/-!
# Margins on the wire

A packed percentage of an amount is at most the amount, so a margin that arrives as a percentage is at
most 100 percent. Sixteen bits leave room for larger mantissas, but only with an exponent that makes up
for them. Terms that come from fee records, or from registered terms by fee updates, have only such
margins, so that no batch of governance and no batch of fee updates is refused for a margin.
-/

namespace SwapRelay

namespace Percentage

/-- With the exponent zero the mantissa is checked, and with any other one it has not enough bits to
express 100 percent. -/
theorem mantissa_le (p : Percentage) : p.mantissa ≤ 10 ^ (4 + p.exponent) := by
  have bits : p.raw.val < 65536 := p.raw.isLt
  by_cases zero : p.exponent = 0
  · rw [zero]
    exact p.le_hundred zero
  · have power : 10 ^ 5 ≤ 10 ^ (4 + p.exponent) := Nat.pow_le_pow_right (by decide) (by omega)
    unfold mantissa
    omega

theorem mul_mantissa_div_le (p : Percentage) (full : Nat) :
    full * p.mantissa / 10 ^ (4 + p.exponent) ≤ full := by
  apply Nat.div_le_of_le_mul
  rw [Nat.mul_comm]
  exact Nat.mul_le_mul_right full p.mantissa_le

theorem exists_product (p : Percentage) (full : Word 8) :
    ∃ product : Word 16, product.val = full.val * p.mantissa := by
  have bits : p.mantissa < 256 ^ 2 := Nat.lt_of_le_of_lt (Nat.div_le_self _ _) p.raw.isLt
  have bounded : full.val * p.mantissa < 256 ^ 8 * 256 ^ 2 := Nat.mul_lt_mul'' full.isLt bits
  exact ⟨⟨_, by omega⟩, rfl⟩

theorem exists_power (p : Percentage) : ∃ power : Word 16, power.val = 10 ^ (4 + p.exponent) := by
  have few : p.exponent < 4 := Nat.mod_lt _ (by decide)
  have bounded : 10 ^ (4 + p.exponent) ≤ 10 ^ 7 := Nat.pow_le_pow_right (by decide) (by omega)
  exact ⟨⟨_, by omega⟩, rfl⟩

theorem ofNat?_scale (p : Percentage) (full : Word 8) :
    Word.ofNat? 8 (full.val * p.mantissa / 10 ^ (4 + p.exponent)) = some (p.scale full) := by
  have fits := Nat.lt_of_le_of_lt (p.mul_mantissa_div_le full.val) full.isLt
  unfold scale
  rw [Word.ofNat?, dif_pos fits]
  rfl

theorem scale_val (p : Percentage) (full : Word 8) :
    (p.scale full).val = full.val * p.mantissa / 10 ^ (4 + p.exponent) :=
  Word.ofNat?_eq_some_iff.mp (p.ofNat?_scale full)

theorem scale_le (p : Percentage) (full : Word 8) : p.scale full ≤ full := by
  rw [Fin.le_def, scale_val]
  exact p.mul_mantissa_div_le full.val

theorem ofNat?_toMargin (p : Percentage) :
    Word.ofNat? 4 (p.scale fullMarginAmount).val = some p.toMargin := by
  have fits : (p.scale fullMarginAmount).val < 256 ^ 4 :=
    Nat.lt_of_le_of_lt (p.scale_le fullMarginAmount) (by decide)
  unfold toMargin
  rw [Word.ofNat?, dif_pos fits]
  rfl

theorem toMargin_le (p : Percentage) : p.toMargin.val ≤ fullMargin := by
  rw [Word.ofNat?_eq_some_iff.mp p.ofNat?_toMargin]
  exact p.scale_le fullMarginAmount

end Percentage

def TermsField.IsMargin : TermsField → Prop
  | .gasDropoffMargin | .gasPriceMargin => True
  | _ => False

theorem FeeUpdate.margin_le {update : FeeUpdate} {field : TermsField} {margin : Nat}
    (named : field.IsMargin) (sets : update.value? field = some margin) : margin ≤ fullMargin := by
  cases field with
  | gasDropoffMargin =>
    cases update with
    | gasDropoffMargin p =>
      cases sets
      exact p.toMargin_le
    | _ => cases sets
  | gasPriceMargin =>
    cases update with
    | gasPriceMargin p =>
      cases sets
      exact p.toMargin_le
    | _ => cases sets
  | _ => exact named.elim

namespace RelayTerms

variable {terms changed : RelayTerms}

/-- No margin is more than 100 percent. -/
def WithinFull (terms : RelayTerms) : Prop :=
  ∀ field margin, field.IsMargin → terms.value? field = some margin → margin ≤ fullMargin

theorem withinFull_iff :
    terms.WithinFull ↔ terms.gasDropoffMargin.val ≤ fullMargin ∧
      ∀ evm, terms.evm = some evm → evm.gasPriceMargin.val ≤ fullMargin := by
  constructor
  · intro within
    refine ⟨within .gasDropoffMargin _ trivial rfl, fun evm priced => ?_⟩
    exact within .gasPriceMargin _ trivial (by rw [value?, priced, Option.map_some])
  · rintro ⟨dropoff, gas⟩ field margin named found
    cases field with
    | gasDropoffMargin =>
      cases found
      exact dropoff
    | gasPriceMargin =>
      obtain ⟨evm, priced, rfl⟩ := Option.map_eq_some_iff.mp found
      exact gas evm priced
    | _ => exact named.elim

theorem Acceptable.withinFull (acceptable : terms.Acceptable) : terms.WithinFull :=
  withinFull_iff.mpr ⟨acceptable.gasDropoffMargin, acceptable.gasPriceMargin⟩

theorem withinFull_ofFeeRecord (record : FeeRecord) (limit : SwapTimeLimit) :
    (ofFeeRecord record limit).WithinFull := by
  refine withinFull_iff.mpr ⟨record.gasDropoffMargin.toMargin_le, ?_⟩
  rintro _ ⟨⟩
  exact record.gasPriceMargin.toMargin_le

theorem margin_of_apply {update : FeeUpdate} (applied : terms.apply update = .ok changed)
    {field : TermsField} (named : field.IsMargin) :
    match update.value? field with
    | some margin => changed.value? field = some margin ∧ margin ≤ fullMargin
    | none => changed.value? field = terms.value? field := by
  have value := value?_of_apply applied field
  cases sets : update.value? field with
  | some margin =>
    rw [sets] at value
    exact ⟨value, FeeUpdate.margin_le named sets⟩
  | none =>
    rw [sets] at value
    exact value

theorem WithinFull.apply (within : terms.WithinFull) {update : FeeUpdate}
    (applied : terms.apply update = .ok changed) : changed.WithinFull := by
  intro field margin named found
  have outcome := margin_of_apply applied named
  cases sets : update.value? field with
  | some newMargin =>
    rw [sets] at outcome
    cases outcome.1.symm.trans found
    exact outcome.2
  | none =>
    rw [sets] at outcome
    exact within field margin named (outcome.symm.trans found)

theorem verify_refusesOnly (within : terms.WithinFull) :
    RefusesOnly terms.verify (· ≠ .invalidMargin) := by
  obtain ⟨dropoff, gas⟩ := withinFull_iff.mp within
  unfold verify
  refine .bind (.require (by decide)) fun _ => .bind (.require (by decide)) fun _ => ?_
  refine .bind (.require_of (absurd dropoff)) fun _ => ?_
  split
  · rename_i evm priced
    exact .bind (.require (by decide)) fun _ => .require_of (absurd (gas evm priced))
  · exact .ok ()

theorem apply_refusesOnly (terms : RelayTerms) (update : FeeUpdate) :
    RefusesOnly (terms.apply update) (· ≠ .invalidMargin) := by
  have modified (change : EvmTerms → EvmTerms) :
      RefusesOnly (terms.modifyEvm change) (· ≠ .invalidMargin) := by
    unfold modifyEvm
    split
    · exact .ok _
    · exact .error (by decide)
  cases update with
  | gasPrice timestamp price => exact modified _
  | gasPriceMargin margin => exact modified _
  | gasPriceUpdateThreshold threshold => exact .error (by decide)
  | _ => exact .ok _

end RelayTerms

namespace Deployment

section Batches

variable {ρ : Type} {deployment : Deployment ρ} {staged next : StagedTerms}

def StagesWithinFull (staged : StagedTerms) : Prop :=
  ∀ chain terms, staged.get? chain = some terms → terms.WithinFull

theorem withinFull_of_termsDuring (valid : deployment.ValidPeers) (within : StagesWithinFull staged)
    {chain : ChainId} {terms : RelayTerms} (found : deployment.termsDuring staged chain = .ok terms) :
    terms.WithinFull := by
  rcases termsDuring_eq_ok_iff.mp found with earlier | ⟨-, peer, registered, rfl⟩
  · exact within chain terms earlier
  · exact (valid chain peer registered).acceptable.withinFull

theorem StagesWithinFull.stageFeeUpdate (within : StagesWithinFull staged)
    (valid : deployment.ValidPeers) {change : ChainFeeUpdate}
    (accepted : deployment.stageFeeUpdate staged change = .ok next) : StagesWithinFull next := by
  obtain ⟨terms, changed, found, applied, rfl⟩ := stageFeeUpdate_eq_ok_iff.mp accepted
  intro chain later written
  rw [Table.get?_insert] at written
  split at written
  · cases written
    exact (withinFull_of_termsDuring valid within found).apply applied
  · exact within chain later written

theorem stageFeeUpdate_refusesOnly (staged : StagedTerms) (change : ChainFeeUpdate) :
    RefusesOnly (deployment.stageFeeUpdate staged change) (· ≠ .invalidMargin) := by
  have found : RefusesOnly (deployment.termsDuring staged change.chain) (· ≠ .invalidMargin) := by
    unfold termsDuring requirePeer
    split
    · exact .ok _
    · split
      · exact .ok _
      · exact .error (by decide)
  exact .bind found fun terms => .bind (terms.apply_refusesOnly change.update) fun _ => .ok _

/-- Updates are refused while they apply, or in the end for a price. -/
theorem stageFeeUpdates_refusesOnly (valid : deployment.ValidPeers) (changes : List ChainFeeUpdate) :
    RefusesOnly (deployment.stageFeeUpdates changes) (· ≠ .invalidMargin) := by
  have start : StagesWithinFull .empty := nofun
  refine .bind_of_eq_ok (.foldlM stageFeeUpdate_refusesOnly changes _) fun staged folded => ?_
  have within := foldlM_invariant (P := StagesWithinFull)
    (fun _ _ _ accepted within => within.stageFeeUpdate valid accepted) folded start
  refine .bind (.forM fun terms listed => ?_) fun _ => .ok staged
  obtain ⟨chain, found⟩ := Table.mem_values_iff.mp listed
  exact RelayTerms.verify_refusesOnly (within chain terms found)

theorem stageCommand_refusesOnly (staged : Table 2 Peer) (command : GovernanceCommand) :
    RefusesOnly (deployment.stageCommand staged command) (· ≠ .invalidMargin) := by
  have limited (endpoint : Endpoint) :
      RefusesOnly (deployment.timeLimitDuring staged endpoint) (· ≠ .invalidMargin) := by
    unfold timeLimitDuring
    split
    · exact .bind (.require (by decide)) fun _ => .ok _
    · exact .ok _
  cases command with
  | updateEndpoint endpoint fees =>
    refine .bind (.require (by decide)) fun _ => .bind (.require (by decide)) fun _ => ?_
    refine .bind (limited endpoint) fun limit => ?_
    have within := RelayTerms.withinFull_ofFeeRecord fees limit
    exact .bind (RelayTerms.verify_refusesOnly within) fun _ => .ok _
  | proposeEndpointUpdate endpoint => exact .error (by decide)
  | upgradeContract implementation => exact .error (by decide)
  | proposeContractUpgrade implementation => exact .error (by decide)

theorem requireCustodian_refusesOnly (deployment : Deployment ρ) :
    RefusesOnly deployment.requireCustodian (· ≠ .invalidMargin) := by
  unfold requireCustodian
  split
  · exact .ok _
  · exact .error (by decide)

theorem executeGovernance_refusesOnly (deployment : Deployment ρ) (signer : Address)
    (commands : List GovernanceCommand) :
    RefusesOnly (deployment.perform (executeGovernance signer commands)).1 (· ≠ .invalidMargin) := by
  rw [executeGovernance, perform_get_bind]
  refine perform_check_bind_refusesOnly deployment.requireCustodian_refusesOnly fun custodian => ?_
  refine perform_check_bind_refusesOnly (.require (by decide)) fun _ => ?_
  exact perform_check_bind_refusesOnly (.foldlM stageCommand_refusesOnly commands _) fun _ => .ok _

theorem applyFeeUpdates_refusesOnly (valid : deployment.ValidPeers) (signer : Address)
    (changes : List ChainFeeUpdate) :
    RefusesOnly (deployment.perform (applyFeeUpdates signer changes)).1 (· ≠ .invalidMargin) := by
  rw [applyFeeUpdates, perform_get_bind]
  refine perform_check_bind_refusesOnly deployment.requireCustodian_refusesOnly fun custodian => ?_
  refine perform_check_bind_refusesOnly (.require (by decide)) fun _ => ?_
  exact perform_check_bind_refusesOnly (stageFeeUpdates_refusesOnly valid changes) fun _ => .ok _

end Batches

/-- A percentage of an amount is its mantissa's share of the amount, rounded down, which is at most the
amount. It is computed within sixteen bytes and fits the bytes of the amount, so nothing ever stands in
for it. So fee records and fee updates set margins to at most 100 percent; and whatever has happened to
a deployment, over any router, no batch of governance and no batch of fee updates is refused for a
margin. -/
theorem margins_at_most_full {ρ : Type} [TokenRouter ρ] (settings : Settings) (router : ρ)
    (occurrences : List (Occurrence ρ)) :
    (∀ raw p, Percentage.ofRaw raw = .ok p →
      p.mantissa = raw.val / 4 ∧ p.exponent = raw.val % 4 ∧
      Word.ofNat? 4 (p.scale fullMarginAmount).val = some p.toMargin ∧ ∀ full : Word 8,
        (∃ product power : Word 16, product.val = full.val * p.mantissa ∧
          power.val = 10 ^ (4 + p.exponent) ∧ (p.scale full).val = product.val / power.val) ∧
        Word.ofNat? 8 (full.val * p.mantissa / 10 ^ (4 + p.exponent)) = some (p.scale full) ∧
        p.scale full ≤ full) ∧
    (∀ record limit, (RelayTerms.ofFeeRecord record limit).WithinFull) ∧
    (∀ terms update changed, RelayTerms.apply terms update = .ok changed → ∀ field : TermsField,
      field.IsMargin → match update.value? field with
        | some margin => changed.value? field = some margin ∧ margin ≤ fullMargin
        | none => changed.value? field = terms.value? field) ∧
    ∀ signer,
      let now := (fresh settings router).course occurrences
      (∀ commands, (now.step (.executeGovernance signer commands)).1 ≠ .error .invalidMargin) ∧
        ∀ changes, (now.step (.applyFeeUpdates signer changes)).1 ≠ .error .invalidMargin := by
  refine ⟨fun raw p accepted => ?_, RelayTerms.withinFull_ofFeeRecord,
    fun terms update changed applied field named => RelayTerms.margin_of_apply applied named,
    fun signer => ⟨fun commands => ?_, fun changes => ?_⟩⟩
  · have same := Percentage.raw_eq_of_ofRaw accepted
    subst same
    refine ⟨rfl, rfl, p.ofNat?_toMargin, fun full => ⟨?_, p.ofNat?_scale full, p.scale_le full⟩⟩
    obtain ⟨product, sameProduct⟩ := p.exists_product full
    obtain ⟨power, samePower⟩ := p.exists_power
    refine ⟨product, power, sameProduct, samePower, ?_⟩
    rw [p.scale_val, sameProduct, samePower]
  · intro refused
    exact perform_map_refusesOnly (executeGovernance_refusesOnly _ signer commands) _ refused rfl
  · intro refused
    have valid := validPeers_course settings router occurrences
    exact perform_map_refusesOnly (applyFeeUpdates_refusesOnly valid signer changes) _ refused rfl

def wholeRecord : FeeRecord :=
  ⟨6, ⟨1⟩, { raw := 40000 }, 0, .zero, .zero, { raw := 40000 }, 1⟩

theorem largest_mantissa_at_most_full :
    let start := (fresh (.standard 1) MemoryRouter.empty).course registryCourse
    let largest : Percentage := { raw := 65533 }
    let terms : RelayTerms := ⟨5, 1, ⟨10⟩, 0, some ⟨⟨1⟩, 0⟩, ⟨10, 30⟩⟩
    Percentage.ofRaw 65533 = .ok largest ∧ largest.mantissa = 16383 ∧ largest.exponent = 1 ∧
      (largest.scale (Word.greatest 8)).val = 3022130081595835841 ∧
      largest.scale (Word.greatest 8) ≤ Word.greatest 8 ∧
      (RelayTerms.ofFeeRecord wholeRecord ⟨10, 30⟩).WithinFull ∧
      (∃ changed, terms.apply (.gasPriceMargin { raw := 40000 }) = .ok changed ∧
        changed.value? .gasPriceMargin = some 1000000 ∧ 1000000 ≤ fullMargin) ∧
      (start.step (.executeGovernance 11 [.updateEndpoint ⟨4, 44⟩ wholeRecord])).1 ≠
        .error .invalidMargin ∧
      (start.step (.applyFeeUpdates 11 [⟨2, .gasDropoffMargin { raw := 40000 }⟩])).1 ≠
        .error .invalidMargin := by
  intro start largest terms
  have accepted : Percentage.ofRaw 65533 = .ok largest := rfl
  obtain ⟨scaled, recorded, updated, unrefused⟩ :=
    margins_at_most_full (.standard 1) MemoryRouter.empty registryCourse
  obtain ⟨mantissa, exponent, -, exact⟩ := scaled 65533 largest accepted
  obtain ⟨-, -, below⟩ := exact (Word.greatest 8)
  obtain ⟨value, bounded⟩ := updated terms (.gasPriceMargin { raw := 40000 }) _ rfl .gasPriceMargin
    trivial
  exact ⟨accepted, mantissa, exponent, by decide +kernel, below, recorded wholeRecord ⟨10, 30⟩,
    ⟨_, rfl, value, bounded⟩, (unrefused 11).1 _, (unrefused 11).2 _⟩

end Deployment
end SwapRelay
