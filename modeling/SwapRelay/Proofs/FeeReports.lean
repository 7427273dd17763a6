import SwapRelay.Proofs.Answers
import SwapRelay.Proofs.Custodians
import SwapRelay.Proofs.GovernanceBatches
import SwapRelay.Proofs.Margins

/-!
# Fee reports

What a deployment reports of its terms with a peer is a fee record, in which the margins are packed and
may have lost digits. The owner may hand the record in again: the prices are those that are registered
and the margins are at most 100 percent, so it is accepted, and of the whole deployment nothing but the
two margins can be different behind it.
-/

namespace SwapRelay

namespace RelayTerms

variable {terms : RelayTerms} {record : FeeRecord} {evm : EvmTerms}

theorem toFeeRecord_eq_ok_iff :
    terms.toFeeRecord = .ok record ↔ ∃ gasPrice gasPriceMargin gasDropoffMargin,
      terms.packedGasPrice = .ok (gasPrice, gasPriceMargin) ∧
      Percentage.ofMargin terms.gasDropoffMargin = .ok gasDropoffMargin ∧
      record = ⟨terms.baseFee, gasPrice, gasPriceMargin, 0, .zero, terms.maxGasDropoff,
        gasDropoffMargin, terms.nativeTokenPrice⟩ := by
  simp only [toFeeRecord, bind_eq_ok_iff, pure_eq_ok_iff, Prod.exists]
  constructor
  · rintro ⟨gasPrice, gasPriceMargin, priced, gasDropoffMargin, packed, rfl⟩
    exact ⟨gasPrice, gasPriceMargin, gasDropoffMargin, priced, packed, rfl⟩
  · rintro ⟨gasPrice, gasPriceMargin, gasDropoffMargin, priced, packed, rfl⟩
    exact ⟨gasPrice, gasPriceMargin, priced, gasDropoffMargin, packed, rfl⟩

/-- Where gas has a price, a report describes the terms that it is made of, up to their margins. -/
theorem ofFeeRecord_of_toFeeRecord (priced : terms.evm = some evm)
    (reported : terms.toFeeRecord = .ok record) :
    ofFeeRecord record terms.swapTimeLimit =
      { terms with
        gasDropoffMargin := record.gasDropoffMargin.toMargin
        evm := some { evm with gasPriceMargin := record.gasPriceMargin.toMargin } } := by
  obtain ⟨gasPrice, gasPriceMargin, gasDropoffMargin, packed, -, rfl⟩ :=
    toFeeRecord_eq_ok_iff.mp reported
  unfold packedGasPrice at packed
  rw [priced] at packed
  obtain ⟨margin, -, same⟩ := bind_eq_ok_iff.mp packed
  cases same
  rfl

theorem Acceptable.withMargins (acceptable : terms.Acceptable) (priced : terms.evm = some evm)
    (p q : Percentage) :
    RelayTerms.Acceptable { terms with
      gasDropoffMargin := p.toMargin
      evm := some { evm with gasPriceMargin := q.toMargin } } where
  baseFee := acceptable.baseFee
  nativeTokenPrice := acceptable.nativeTokenPrice
  gasDropoffMargin := p.toMargin_le
  gasPrice := by
    rintro _ ⟨⟩
    exact acceptable.gasPrice evm priced
  gasPriceMargin := by
    rintro _ ⟨⟩
    exact q.toMargin_le

end RelayTerms

namespace Deployment

variable {ρ : Type} {deployment : Deployment ρ} {chain : ChainId} {peer : Peer} {bytes : Bytes}

theorem decode_of_answer_feeRecord (answered : deployment.answers [.feeRecord chain] = .ok bytes) :
    ∃ record, deployment.feeRecord chain = .ok record ∧ Wire.write record = .ok bytes ∧
      Wire.decode FeeRecord bytes = .ok record := by
  rw [answers_singleton] at answered
  obtain ⟨record, found, encoded⟩ := bind_eq_ok_iff.mp answered
  have written := encodeFeeRecord_eq_ok_iff.mp encoded
  exact ⟨record, found, written, LawfulWire.decode_of_write written⟩

theorem feeRecord_of_registered (registered : deployment.peers.get? chain = some peer) :
    deployment.feeRecord chain = peer.terms.toFeeRecord := by
  rw [feeRecord, registered]

/-- A single command that names a registered peer by its address sets the terms that its record
describes, under the time limits that the peer has. -/
theorem stageCommands_of_registered (valid : deployment.ValidPeers)
    (registered : deployment.peers.get? chain = some peer) {fees : FeeRecord} {terms : RelayTerms}
    (described : RelayTerms.ofFeeRecord fees peer.terms.swapTimeLimit = terms)
    (acceptable : terms.Acceptable) :
    deployment.stageCommands [.updateEndpoint ⟨chain, peer.address⟩ fees] =
      .ok (Table.empty.insert chain { peer with terms }) := by
  obtain ⟨chain_eq, foreign, address_ne, -⟩ := valid chain peer registered
  have limited : deployment.timeLimitDuring .empty ⟨chain, peer.address⟩ =
      .ok peer.terms.swapTimeLimit := by
    rw [timeLimitDuring_eq_ok_iff, Table.get?_empty, Option.none_or, registered]
    exact ⟨rfl, rfl⟩
  subst described
  have staged := stageCommand_eq_ok_iff.mpr
    ⟨⟨chain, peer.address⟩, fees, _, rfl, foreign, address_ne, limited, acceptable, rfl⟩
  rw [stageCommands, List.foldlM_cons, staged, chain_eq]
  rfl

section Fresh

variable [TokenRouter ρ] {settings : Settings} {router : ρ} {occurrences : List (Occurrence ρ)}
  {evm : EvmTerms}

/-- Over any router, whatever is asked for by whomever: if the terms with a peer that has a gas price
are reported, then the report is a fee record, and the owner can hand it in for the address of the
peer. It is accepted, and it changes the margins of the peer only, to those of the record, which are
at most 100 percent. -/
theorem fee_report_accepted
    (registered : ((fresh settings router).course occurrences).peers.get? chain = some peer)
    (priced : peer.terms.evm = some evm)
    (answered : ((fresh settings router).course occurrences).answers [.feeRecord chain] =
      .ok bytes) :
    let now := (fresh settings router).course occurrences
    ∃ record custodian, Wire.decode FeeRecord bytes = .ok record ∧
      now.custodian = some custodian ∧
      record.gasDropoffMargin.toMargin.val ≤ fullMargin ∧
      record.gasPriceMargin.toMargin.val ≤ fullMargin ∧
      now.step (.executeGovernance custodian.owner
          [.updateEndpoint ⟨chain, peer.address⟩ record]) =
        (.ok .done, { now with
          peers := now.peers.insert chain { peer with
            terms := { peer.terms with
              gasDropoffMargin := record.gasDropoffMargin.toMargin
              evm := some { evm with gasPriceMargin := record.gasPriceMargin.toMargin } } } }) := by
  intro now
  have valid := validPeers_course settings router occurrences
  obtain ⟨custodian, charged⟩ := charged_of_registered registered
  obtain ⟨record, found, -, decoded⟩ := decode_of_answer_feeRecord answered
  rw [feeRecord_of_registered registered] at found
  have acceptable := (valid chain peer registered).acceptable.withMargins priced
    record.gasDropoffMargin record.gasPriceMargin
  have agreed := stageCommands_of_registered valid registered
    (RelayTerms.ofFeeRecord_of_toFeeRecord priced found) acceptable
  refine ⟨record, custodian, decoded, charged, Percentage.toMargin_le _, Percentage.toMargin_le _, ?_⟩
  refine perform_map_eq_ok_iff.mpr ⟨(), ?_, rfl⟩
  exact perform_executeGovernance_eq_ok_iff.mpr ⟨custodian, charged, rfl, _, agreed, rfl⟩

end Fresh

/-- Chain 2 has a margin with more digits than a report has room for, and one that fits. -/
def marginCourse : List (Occurrence MemoryRouter) :=
  [ .asked (.install 11 12 13 14),
    .asked (.addPeer 12 2 22 ⟨5, 1, ⟨10⟩, 123456, some ⟨⟨1⟩, 250000⟩, ⟨20, 60⟩⟩) ]

def marginReport : Bytes :=
  [0, 0, 0, 5, 0, 0, 0, 1, 39, 16, 0, 0, 0, 0, 0, 0, 0, 0, 0, 10, 19, 76, 0, 0, 0, 0, 0, 0, 0, 0, 0, 1]

def marginRecord : FeeRecord :=
  ⟨5, ⟨1⟩, { raw := 10000 }, 0, .zero, ⟨10⟩, { raw := 4940 }, 1⟩

/-- The report of chain 2 is accepted and rounds its first margin. -/
theorem marginReport_accepted :
    let now := (fresh (.standard 1) MemoryRouter.empty).course marginCourse
    let peer : Peer := ⟨2, 22, ⟨5, 1, ⟨10⟩, 123456, some ⟨⟨1⟩, 250000⟩, ⟨20, 60⟩⟩⟩
    now.peers.get? 2 = some peer ∧ now.answers [.feeRecord 2] = .ok marginReport ∧
      Wire.decode FeeRecord marginReport = .ok marginRecord ∧ 250000 ≤ fullMargin ∧
      now.step (.executeGovernance 11 [.updateEndpoint ⟨2, 22⟩ marginRecord]) =
        (.ok .done, { now with
          peers := now.peers.insert 2 { peer with
            terms := ⟨5, 1, ⟨10⟩, 123500, some ⟨⟨1⟩, 250000⟩, ⟨20, 60⟩⟩ } }) := by
  intro now peer
  have registered : now.peers.get? 2 = some peer := rfl
  have answered : now.answers [.feeRecord 2] = .ok marginReport :=
    toOption_eq_some_iff.mp (by decide +kernel)
  have read : Wire.decode FeeRecord marginReport = .ok marginRecord :=
    toOption_eq_some_iff.mp (by decide +kernel)
  obtain ⟨record, custodian, decoded, charged, -, price, stepped⟩ :=
    fee_report_accepted registered rfl answered
  cases charged
  cases read.symm.trans decoded
  exact ⟨registered, answered, read, price, stepped⟩

end Deployment
end SwapRelay
