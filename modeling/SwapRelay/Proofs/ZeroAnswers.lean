import SwapRelay.Proofs.FeeReports

/-!
# Answers that are zero

Where there is nothing to answer with, a query is answered by zeros. Such an answer cannot be mistaken
for one about something that exists: whatever has happened to a deployment, the addresses and the base
fees of registered peers are not zero, and neither are the accounts in charge.
-/

namespace SwapRelay

def zeroAnswer : Bytes := List.replicate 32 0

theorem Bytes.ofNat_zero (width : Nat) : Bytes.ofNat width 0 = List.replicate width 0 := by
  induction width with
  | zero => rfl
  | succ width ih =>
    rw [Bytes.ofNat, Nat.zero_div, ih, List.replicate_succ']
    rfl

theorem Address.toBytes_eq_zeroAnswer_iff {address : Address} :
    Word.toBytes address = zeroAnswer ↔ address = 0 := by
  have zeros : Word.toBytes (0 : Address) = zeroAnswer := Bytes.ofNat_zero 32
  constructor
  · intro same
    apply Fin.ext
    have spelled := congrArg Bytes.toNat (same.trans zeros.symm)
    simpa only [Word.toBytes, Bytes.toNat_ofNat, Nat.mod_eq_of_lt (Fin.isLt _)] using spelled
  · rintro rfl
    exact zeros

namespace RelayTerms

theorem Acceptable.report_ne_zero {terms : RelayTerms} {record : FeeRecord}
    (acceptable : terms.Acceptable) (reported : terms.toFeeRecord = .ok record) :
    record ≠ .zero := by
  obtain ⟨gasPrice, gasPriceMargin, gasDropoffMargin, -, -, rfl⟩ := toFeeRecord_eq_ok_iff.mp reported
  intro same
  have free : terms.baseFee = 0 := congrArg FeeRecord.baseFee same
  exact absurd acceptable.baseFee (by simp [free])

end RelayTerms

theorem Custodian.Proper.successor_eq_zero_iff {custodian : Custodian} (proper : custodian.Proper) :
    custodian.pendingOwner.getD 0 = 0 ↔ custodian.pendingOwner = none := by
  cases pending : custodian.pendingOwner with
  | none => exact iff_of_true rfl rfl
  | some successor =>
    exact iff_of_false (proper.successor_ne successor pending).1 (Option.some_ne_none _)

namespace Deployment

variable {ρ : Type} {deployment : Deployment ρ} {chain : ChainId} {custodian : Custodian}
  {bytes : Bytes}

section Peers

theorem endpointAddress_eq_zero_iff (valid : deployment.ValidPeers) :
    deployment.endpointAddress chain = 0 ↔ deployment.peers.get? chain = none := by
  unfold endpointAddress
  cases registered : deployment.peers.get? chain with
  | none => exact iff_of_true rfl rfl
  | some peer => exact iff_of_false (valid chain peer registered).address_ne (Option.some_ne_none _)

theorem feeRecord_eq_zero_iff (valid : deployment.ValidPeers) {record : FeeRecord}
    (found : deployment.feeRecord chain = .ok record) :
    record = .zero ↔ deployment.peers.get? chain = none := by
  cases registered : deployment.peers.get? chain with
  | none =>
    rw [feeRecord, registered] at found
    cases found
    exact iff_of_true rfl rfl
  | some peer =>
    rw [feeRecord_of_registered registered] at found
    have acceptable := (valid chain peer registered).acceptable
    exact iff_of_false (acceptable.report_ne_zero found) (Option.some_ne_none _)

/-- No two records are written alike, so an answer is that of the record zero only if the record is. -/
theorem encodes_zero_iff (valid : deployment.ValidPeers)
    (answered : deployment.answers [.feeRecord chain] = .ok bytes) :
    encodeFeeRecord .zero = .ok bytes ↔ deployment.peers.get? chain = none := by
  obtain ⟨record, found, written, decoded⟩ := decode_of_answer_feeRecord answered
  rw [← feeRecord_eq_zero_iff valid found, encodeFeeRecord_eq_ok_iff]
  constructor
  · intro zeros
    cases decoded.symm.trans (LawfulWire.decode_of_write zeros)
    rfl
  · rintro rfl
    exact written

end Peers

section Roles

theorem answer_of_charged (charged : deployment.custodian = some custodian)
    (role : Custodian → Address) :
    (do return (role (← deployment.requireCustodian)).toBytes : Except SwapError Bytes) =
      .ok (role custodian).toBytes := by
  rw [requireCustodian_eq_ok_iff.mpr charged]
  rfl

theorem exists_nonzero_answer (charged : deployment.custodian = some custodian)
    (proper : custodian.Proper) {query : Query}
    (named : query ∈ [Query.owner .current, .assistant, .feeRecipient .current]) :
    ∃ bytes, deployment.answer query = .ok bytes ∧ bytes ≠ zeroAnswer := by
  have nonzero (role : Custodian → Address) (role_ne : role custodian ≠ 0) :
      ∃ bytes, (do return (role (← deployment.requireCustodian)).toBytes : Except SwapError Bytes) =
        .ok bytes ∧ bytes ≠ zeroAnswer :=
    ⟨_, answer_of_charged charged role, mt Address.toBytes_eq_zeroAnswer_iff.mp role_ne⟩
  simp only [List.mem_cons, List.not_mem_nil, or_false] at named
  rcases named with rfl | rfl | rfl
  · exact nonzero Custodian.owner proper.owner_ne
  · exact nonzero Custodian.assistant proper.assistant_ne
  · exact nonzero Custodian.feeRecipient proper.feeRecipient_ne

end Roles

/-- Over any router, whatever is asked for by whomever: a query for the address of a peer, or for its
fee record if that is answered, has the answer that a chain without a peer has exactly if the chain
has none. Once somebody is in charge, the query for the successor is answered with zeros exactly if
nobody is to succeed, and the queries for the other accounts never are. -/
theorem zero_answers_unambiguous [TokenRouter ρ] (settings : Settings) (router : ρ)
    (occurrences : List (Occurrence ρ)) :
    let now := (fresh settings router).course occurrences
    (∀ chain,
      (∃ bytes, now.answers [.endpoint .current chain] = .ok bytes ∧
        (bytes = zeroAnswer ↔ now.peers.get? chain = none)) ∧
      ∀ bytes, now.answers [.feeRecord chain] = .ok bytes →
        (encodeFeeRecord .zero = .ok bytes ↔ now.peers.get? chain = none)) ∧
    ∀ custodian, now.custodian = some custodian →
      (∃ bytes, now.answers [.owner .proposed] = .ok bytes ∧
        (bytes = zeroAnswer ↔ custodian.pendingOwner = none)) ∧
      ∀ query ∈ [Query.owner .current, .assistant, .feeRecipient .current],
        ∃ bytes, now.answers [query] = .ok bytes ∧ bytes ≠ zeroAnswer := by
  intro now
  have valid := validPeers_course settings router occurrences
  constructor
  · intro chain
    refine ⟨⟨(now.endpointAddress chain).toBytes, answers_singleton _, ?_⟩, ?_⟩
    · rw [Address.toBytes_eq_zeroAnswer_iff, endpointAddress_eq_zero_iff valid]
    · intro bytes answered
      exact encodes_zero_iff valid answered
  · intro custodian charged
    have proper := proper_course settings router occurrences custodian charged
    constructor
    · have answered := answer_of_charged charged fun custodian => custodian.pendingOwner.getD 0
      refine ⟨_, (answers_singleton (.owner .proposed)).trans answered, ?_⟩
      rw [Address.toBytes_eq_zeroAnswer_iff, proper.successor_eq_zero_iff]
    · intro query named
      rw [answers_singleton]
      exact exists_nonzero_answer charged proper named

theorem missing_peer_answered_zero :
    let now := (fresh (.standard 1) MemoryRouter.empty).course
      (registryCourse ++ [.asked (.submitOwnershipTransfer 11 15)])
    now.answers [.endpoint .current 5] = .ok zeroAnswer ∧
      now.answers [.endpoint .current 2] ≠ .ok zeroAnswer ∧
      (∃ bytes, now.answers [.feeRecord 5] = .ok bytes ∧ encodeFeeRecord .zero = .ok bytes) ∧
      (∃ bytes, now.answers [.feeRecord 2] = .ok bytes ∧ encodeFeeRecord .zero ≠ .ok bytes) ∧
      now.answers [.owner .proposed] ≠ .ok zeroAnswer ∧
      now.answers [.assistant] ≠ .ok zeroAnswer := by
  intro now
  obtain ⟨peers, roles⟩ := zero_answers_unambiguous (.standard 1) MemoryRouter.empty
    (registryCourse ++ [.asked (.submitOwnershipTransfer 11 15)])
  obtain ⟨⟨missing, located, missing_iff⟩, unpriced⟩ := peers 5
  obtain ⟨⟨address, registered, address_iff⟩, priced⟩ := peers 2
  obtain ⟨⟨successor, proposed, successor_iff⟩, occupied⟩ := roles _ rfl
  obtain ⟨assistant, assisted, assistant_ne⟩ := occupied .assistant (by decide)
  have absent : now.peers.get? 5 = none := rfl
  have present : now.peers.get? 2 ≠ none := nofun
  have unreported : now.answers [.feeRecord 5] = .ok zeroAnswer :=
    toOption_eq_some_iff.mp (by decide +kernel)
  have reported : now.answers [.feeRecord 2] = .ok (plainResponse.take 32) :=
    toOption_eq_some_iff.mp (by decide +kernel)
  refine ⟨?_, ?_, ⟨_, unreported, (unpriced _ unreported).mpr absent⟩,
    ⟨_, reported, mt (priced _ reported).mp present⟩, ?_, ?_⟩
  · rw [located, missing_iff.mpr absent]
  · rw [registered]
    exact fun same => present (address_iff.mp (Except.ok.inj same))
  · rw [proposed]
    exact fun same => nomatch successor_iff.mp (Except.ok.inj same)
  · rw [assisted]
    exact fun same => assistant_ne (Except.ok.inj same)

end Deployment
end SwapRelay
