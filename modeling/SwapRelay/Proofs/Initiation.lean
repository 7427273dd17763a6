import SwapRelay.Proofs.Retention
import SwapRelay.Proofs.Staging
import SwapRelay.Proofs.Writing

/-!
# Initiation of staged transfers

A staged transfer does not get stuck. The account that prepared it can hand it to the router, unless
relaying it now costs more than its sender accepts or more than what is held. The other checks of
initiation cannot fail: the target chain still has its peer, the message can be written, and what is
held is not zero. All of this was established when the transfer was staged.
-/

namespace SwapRelay

/-- The refusals that no other terms of the peer could cure. -/
def SwapError.IsDeadlock : SwapError → Prop
  | .notInitialized | .payloadTooLarge | .encodeFailed _ | .tokenRouter _ => True
  | _ => False

theorem SwapError.IsQuoteFault.not_isDeadlock {fault : SwapError} (quote : fault.IsQuoteFault) :
    ¬ fault.IsDeadlock := by
  intro deadlock
  cases fault with
  | notInitialized => exact quote
  | payloadTooLarge => exact quote
  | encodeFailed fault => exact quote
  | tokenRouter reason => exact quote
  | _ => exact deadlock

/-- How the initiation of a relay ends. It succeeds exactly if there is a quote that the sender
accepts and that leaves something of what is held, and else it is refused for the first of these
that fails. -/
structure RelayInitiation (quote : Except SwapError (Word 6)) (maxFee custody : Word 8)
    (result : Except SwapError Outcome) : Prop where
  succeeds_iff : (∃ transfer, result = .ok (.initiated transfer)) ↔
    ∃ fee, quote = .ok fee ∧ fee.val ≤ maxFee.val ∧ fee.val < custody.val
  unquoted : ∀ fault, quote = .error fault → result = .error fault
  exceeding : ∀ fee, quote = .ok fee → maxFee.val < fee.val →
    result = .error .exceedsMaxRelayingFee
  uncovered : ∀ fee, quote = .ok fee → fee.val ≤ maxFee.val → custody.val ≤ fee.val →
    result = .error .insufficientAmountIn

/-- What refuses a relay is its quote, or is cured by another quote. -/
theorem RelayInitiation.not_isDeadlock {quote : Except SwapError (Word 6)} {maxFee custody : Word 8}
    {result : Except SwapError Outcome} {fault : SwapError}
    (ends : RelayInitiation quote maxFee custody result)
    (reasons : RefusesOnly quote SwapError.IsQuoteFault) (refused : result = .error fault) :
    ¬ fault.IsDeadlock := by
  cases quoted : quote with
  | error cause =>
    cases (ends.unquoted cause quoted).symm.trans refused
    exact (reasons _ quoted).not_isDeadlock
  | ok fee =>
    rcases Nat.lt_or_ge maxFee.val fee.val with exceeding | accepted
    · cases (ends.exceeding fee quoted exceeding).symm.trans refused
      exact id
    · rcases Nat.lt_or_ge fee.val custody.val with covered | uncovered
      · obtain ⟨transfer, initiated⟩ := ends.succeeds_iff.mpr ⟨fee, quoted, accepted, covered⟩
        cases initiated.symm.trans refused
      · cases (ends.uncovered fee quoted accepted uncovered).symm.trans refused
        exact id

namespace StagedOutbound

variable {staged : StagedOutbound} {overheads : GasOverheads} {terms : RelayTerms}
  {mode : RedeemMode}

theorem exists_carried_of_ne_relay
    (unrelayed : ∀ gasDropoff quoted maxFee, staged.redeem ≠ .relay gasDropoff quoted maxFee) :
    ∃ mode, staged.Carries overheads terms mode := by
  unfold Carries
  cases redeem : staged.redeem with
  | direct => exact ⟨_, rfl⟩
  | payload body => exact ⟨_, rfl⟩
  | relay gasDropoff quoted maxFee => exact absurd redeem (unrelayed gasDropoff quoted maxFee)

theorem carries_iff_of_relay {gasDropoff : GasDropoff} {quoted maxFee : Word 8}
    (relay : staged.redeem = .relay gasDropoff quoted maxFee) :
    staged.Carries overheads terms mode ↔
      ∃ fee, terms.relayerFee overheads gasDropoff staged.outputToken = .ok fee ∧
        fee.val ≤ maxFee.val ∧ fee.val < staged.custodyAmount.val ∧
        mode = .relay gasDropoff fee := by
  unfold Carries
  rw [relay]

theorem Sound.carries_of_quoted (sound : staged.Sound) {gasDropoff : GasDropoff}
    {quoted maxFee : Word 8} {fee : Word 6}
    (relay : staged.redeem = .relay gasDropoff quoted maxFee)
    (charged : terms.relayerFee overheads gasDropoff staged.outputToken = .ok fee)
    (same : quoted = feeAmount fee) : staged.Carries overheads terms (.relay gasDropoff fee) := by
  subst same
  obtain ⟨accepted, -, covered, -⟩ := sound.relay gasDropoff (feeAmount fee) maxFee relay
  exact (carries_iff_of_relay relay).mpr ⟨fee, charged, accepted, covered, rfl⟩

theorem Sound.exists_message (sound : staged.Sound)
    (carried : staged.Carries overheads terms mode) :
    ∃ message, SwapMessage.encode ⟨staged.recipient, mode, staged.outputToken⟩ = .ok message := by
  refine (SwapMessage.takes _).exists_iff.mpr ⟨?_, ?_⟩
  · rintro sender body rfl
    unfold Carries at carried
    cases redeem : staged.redeem with
    | direct => simp [redeem] at carried
    | payload staged =>
      simp only [redeem, RedeemMode.payload.injEq] at carried
      rw [carried.2]
      exact sound.payload_le staged redeem
    | relay gasDropoff quoted maxFee => simp [redeem] at carried
  · exact (OutputToken.takes _).exists_iff.mp sound.token_written

end StagedOutbound

namespace Deployment

section Quoting

variable {ρ : Type} {deployment : Deployment ρ} {terms : RelayTerms} {staged : StagedOutbound}

theorem exists_requoted_of_carries {mode : RedeemMode} (sound : staged.Sound)
    (carried : staged.Carries deployment.settings.gasOverheads terms mode) :
    ∃ redeem, deployment.requote terms staged = .ok { staged with redeem } ∧
      ({ staged with redeem } : StagedOutbound).redeemMode = .ok mode := by
  obtain ⟨preparedBy, sender, target, recipient, refundToken, redeem, token, custody⟩ := staged
  simp only [requote_eq_ok_iff, StagedOutbound.redeemMode_eq_ok_iff]
  cases redeem with
  | direct => exact ⟨.direct, rfl, carried⟩
  | payload body => exact ⟨.payload body, rfl, sound.payload_le body rfl, carried⟩
  | relay gasDropoff quoted maxFee =>
    obtain ⟨fee, charged, accepted, covered, carried⟩ := carried
    exact ⟨.relay gasDropoff (feeAmount fee) maxFee, ⟨fee, charged, accepted, covered, rfl⟩, fee,
      rfl, carried⟩

variable {gasDropoff : GasDropoff} {quoted maxFee : Word 8}

theorem requote_of_relay (relay : staged.redeem = .relay gasDropoff quoted maxFee) :
    deployment.requote terms staged = do
      let fee ← terms.relayerFee deployment.settings.gasOverheads gasDropoff staged.outputToken
      require (fee.val ≤ maxFee.val) .exceedsMaxRelayingFee
      require (fee.val < staged.custodyAmount.val) .insufficientAmountIn
      return { staged with redeem := .relay gasDropoff (feeAmount fee) maxFee } := by
  unfold requote
  rw [relay]

end Quoting

section Steps

variable {deployment : Deployment MemoryRouter} {id : StagedId} {staged : StagedOutbound}
  {peer : Peer} (held : deployment.stagedOutbound.get? id = some staged)
  (registered : deployment.peers.get? staged.targetChain = some peer)

include held registered

theorem step_initiateTransfer_of_requote {fault : SwapError}
    (refused : deployment.requote peer.terms staged = .error fault) :
    (deployment.step (.initiateTransfer staged.preparedBy staged.refundToken id)).1 =
      .error fault := by
  have unordered : deployment.orderFor staged.preparedBy staged.refundToken id = .error fault := by
    simp [orderFor, requireStagedOutbound_eq_ok_iff.mpr held, requirePeer_eq_ok_iff.mpr registered,
      require, refused, bind, Except.bind]
  exact Refuses.bind (.get (.check unordered))

variable (numbersLeft : deployment.router.nextOrder < Word.greatest 8) (sound : staged.Sound)

include numbersLeft sound

theorem step_initiateTransfer_of_carries {mode : RedeemMode}
    (carried : staged.Carries deployment.settings.gasOverheads peer.terms mode) :
    ∃ transfer, (deployment.step (.initiateTransfer staged.preparedBy staged.refundToken id)).1 =
        .ok (.initiated transfer) ∧
      SwapMessage.decode transfer.redeemerMessage =
        .ok ⟨staged.recipient, mode, staged.outputToken⟩ := by
  obtain ⟨redeem, requoted, chosen⟩ := exists_requoted_of_carries sound carried
  obtain ⟨message, written⟩ := sound.exists_message carried
  have encoded : ({ staged with redeem } : StagedOutbound).encodeMessage = .ok message :=
    StagedOutbound.encodeMessage_eq_ok_iff.mpr ⟨mode, chosen, written⟩
  have ordered := orderFor_eq_ok_iff.mpr ⟨staged, peer, _, message, held, rfl, rfl, registered,
    requoted, encoded, rfl⟩
  have amount : staged.custodyAmount ≠ 0 := Fin.pos_iff_ne_zero.mp sound.custody_pos
  have fits : deployment.router.nextOrder.val + 1 < 256 ^ 8 := Nat.add_lt_of_lt_sub numbersLeft
  have performed := perform_initiateTransfer_eq_ok_iff.mpr
    ⟨_, ordered, amount, ⟨_, fits⟩, rfl, rfl, rfl⟩
  have step : deployment.step (.initiateTransfer staged.preparedBy staged.refundToken id) =
      (.ok (.initiated _), _) := perform_map_eq_ok_iff.mpr ⟨_, performed, rfl⟩
  exact ⟨_, congrArg Prod.fst step, SwapMessage.decode_of_encode written⟩

/-- The initiation of a relay ends as its quote says. -/
theorem relayInitiation_of_held {gasDropoff : GasDropoff} {quoted maxFee : Word 8}
    (relay : staged.redeem = .relay gasDropoff quoted maxFee) :
    RelayInitiation
      (peer.terms.relayerFee deployment.settings.gasOverheads gasDropoff staged.outputToken)
      maxFee staged.custodyAmount
      (deployment.step (.initiateTransfer staged.preparedBy staged.refundToken id)).1 where
  succeeds_iff := by
    constructor
    · rintro ⟨transfer, initiated⟩
      obtain ⟨-, target, mode, known, carried, -⟩ := initiated_carries held initiated
      cases registered.symm.trans known
      obtain ⟨fee, charged, accepted, covered, -⟩ :=
        (StagedOutbound.carries_iff_of_relay relay).mp carried
      exact ⟨fee, charged, accepted, covered⟩
    · rintro ⟨fee, charged, accepted, covered⟩
      have carried := (StagedOutbound.carries_iff_of_relay relay).mpr
        ⟨fee, charged, accepted, covered, rfl⟩
      obtain ⟨transfer, initiated, -⟩ :=
        step_initiateTransfer_of_carries held registered numbersLeft sound carried
      exact ⟨transfer, initiated⟩
  unquoted fault failed := by
    refine step_initiateTransfer_of_requote held registered ?_
    rw [requote_of_relay relay, failed]
    rfl
  exceeding fee charged exceeding := by
    refine step_initiateTransfer_of_requote held registered ?_
    simp [requote_of_relay relay, charged, require, bind, Except.bind, Nat.not_le.mpr exceeding]
  uncovered fee charged accepted uncovered := by
    refine step_initiateTransfer_of_requote held registered ?_
    simp [requote_of_relay relay, charged, require, bind, Except.bind, accepted,
      Nat.not_lt.mpr uncovered]

theorem initiated_of_ne_relay
    (unrelayed : ∀ gasDropoff quoted maxFee, staged.redeem ≠ .relay gasDropoff quoted maxFee) :
    ∃ transfer, (deployment.step (.initiateTransfer staged.preparedBy staged.refundToken id)).1 =
      .ok (.initiated transfer) := by
  obtain ⟨mode, carried⟩ := StagedOutbound.exists_carried_of_ne_relay unrelayed
  obtain ⟨transfer, initiated, -⟩ :=
    step_initiateTransfer_of_carries held registered numbersLeft sound carried
  exact ⟨transfer, initiated⟩

theorem initiated_of_quoted
    (quote : ∀ gasDropoff quoted maxFee, staged.redeem = .relay gasDropoff quoted maxFee →
      ∃ fee, peer.terms.relayerFee deployment.settings.gasOverheads gasDropoff
          staged.outputToken = .ok fee ∧ quoted = feeAmount fee) :
    ∃ transfer, (deployment.step (.initiateTransfer staged.preparedBy staged.refundToken id)).1 =
        .ok (.initiated transfer) ∧
      ∀ gasDropoff quoted maxFee, staged.redeem = .relay gasDropoff quoted maxFee →
        ∃ fee, quoted = feeAmount fee ∧ SwapMessage.decode transfer.redeemerMessage =
          .ok ⟨staged.recipient, .relay gasDropoff fee, staged.outputToken⟩ := by
  by_cases unrelayed : ∀ gasDropoff quoted maxFee,
      staged.redeem ≠ .relay gasDropoff quoted maxFee
  · obtain ⟨transfer, initiated⟩ :=
      initiated_of_ne_relay held registered numbersLeft sound unrelayed
    exact ⟨transfer, initiated, fun _ _ _ relay => absurd relay (unrelayed _ _ _)⟩
  · simp only [ne_eq, Classical.not_forall, Classical.not_not] at unrelayed
    obtain ⟨gasDropoff, quoted, maxFee, relay⟩ := unrelayed
    obtain ⟨fee, charged, same⟩ := quote gasDropoff quoted maxFee relay
    obtain ⟨transfer, initiated, read⟩ := step_initiateTransfer_of_carries held registered
      numbersLeft sound (sound.carries_of_quoted relay charged same)
    refine ⟨transfer, initiated, fun _ _ _ again => ?_⟩
    cases relay.symm.trans again
    exact ⟨fee, same, read⟩

end Steps

/-- Wherever a run has led to, as long as the router has numbers left, a staged transfer ends as
follows when the account that prepared it initiates it. (1) If it is not to be relayed, then it is
initiated. (2) If it is, then this is a matter of the fee that the peer of the target chain asks for
at present. (3) It is never refused because a peer is missing, because its message cannot be written
or by the router. (4) It has been staged somewhere on the run, and if the terms of the peer are what
they were there, then it is initiated, with the fee that it was staged with. -/
theorem staged_transfer_initiates {settings : Settings} {events : List Event} {id : StagedId}
    {staged : StagedOutbound}
    (held : ((fresh settings .empty).run events).stagedOutbound.get? id = some staged)
    (numbersLeft : ((fresh settings .empty).run events).router.nextOrder < Word.greatest 8) :
    let deployment := (fresh settings .empty).run events
    let result := (deployment.step (.initiateTransfer staged.preparedBy staged.refundToken id)).1
    ∃ peer, deployment.peers.get? staged.targetChain = some peer ∧
      ((∀ gasDropoff quoted maxFee, staged.redeem ≠ .relay gasDropoff quoted maxFee) →
        ∃ transfer, result = .ok (.initiated transfer)) ∧
      (∀ gasDropoff quoted maxFee, staged.redeem = .relay gasDropoff quoted maxFee →
        RelayInitiation
          (peer.terms.relayerFee deployment.settings.gasOverheads gasDropoff staged.outputToken)
          maxFee staged.custodyAmount result) ∧
      (∀ fault, result = .error fault → ¬ fault.IsDeadlock) ∧
      (∃ moment ∈ (fresh settings .empty).history events,
        moment.outcome? = some (.staged id)) ∧
      ∀ moment ∈ (fresh settings .empty).history events, moment.outcome? = some (.staged id) →
        ∃ first, moment.before.peers.get? staged.targetChain = some first ∧
          (first.terms = peer.terms → ∃ transfer, result = .ok (.initiated transfer) ∧
            ∀ gasDropoff quoted maxFee, staged.redeem = .relay gasDropoff quoted maxFee →
              ∃ fee, quoted = feeAmount fee ∧ SwapMessage.decode transfer.redeemerMessage =
                .ok ⟨staged.recipient, .relay gasDropoff fee, staged.outputToken⟩) := by
  intro deployment result
  have reachable : deployment.Reachable := ⟨settings, events, rfl⟩
  obtain ⟨sound, peer, registered⟩ := reachable.stagesSoundly id staged held
  have unrelayed := initiated_of_ne_relay held registered numbersLeft sound
  have relayed {gasDropoff : GasDropoff} {quoted maxFee : Word 8}
      (relay : staged.redeem = .relay gasDropoff quoted maxFee) :=
    relayInitiation_of_held held registered numbersLeft sound relay
  refine ⟨peer, registered, unrelayed, fun _ _ _ => relayed, ?_, exists_staging_moment rfl held, ?_⟩
  · intro fault refused
    cases redeem : staged.redeem with
    | relay gasDropoff quoted maxFee =>
      exact (relayed redeem).not_isDeadlock (RelayTerms.relayerFee_refusesOnly _ _ _ _) refused
    | _ =>
      obtain ⟨transfer, initiated⟩ := unrelayed (by simp [redeem])
      cases refused.symm.trans initiated
  · intro moment mem given
    obtain ⟨request, accepted⟩ := stagedRecord_of_moment (numbered_fresh settings) mem given held
    obtain ⟨first, known, quote⟩ := quoted_of_stagedRecord accepted
    -- The gas overheads are those of then, so equal terms ask for the same fee.
    have same : deployment.settings = moment.before.settings := by
      obtain ⟨past, later, -, before⟩ := exists_split_of_mem_history mem
      rw [before, settings_run]
      exact (settings_run _ past).symm
    refine ⟨first, known, fun unchanged => initiated_of_quoted held registered numbersLeft sound ?_⟩
    rw [← unchanged, same]
    exact quote

theorem gas_relay_initiates :
    let staged := (fresh (.standard 1) .empty).run gasRelayEvents
    let disabled := (fresh (.standard 1) .empty).run
      (gasRelayEvents ++ [.asked (.applyFeeUpdates 13 [⟨2, .baseFee (Word.greatest 4)⟩])])
    (staged.stagedOutbound.get? 0 = some gasRelay ∧ staged.router.nextOrder < Word.greatest 8 ∧
      ∃ transfer, (staged.step (.initiateTransfer 5 4 0)).1 = .ok (.initiated transfer) ∧
        ∃ fee, 5 = feeAmount fee ∧ SwapMessage.decode transfer.redeemerMessage =
          .ok ⟨7, .relay ⟨3⟩ fee, gasRelay.outputToken⟩) ∧
    (disabled.stagedOutbound.get? 0 = some gasRelay ∧
      disabled.router.nextOrder < Word.greatest 8 ∧
      (disabled.step (.initiateTransfer 5 4 0)).1 = .error .relayingDisabled) := by
  intro staged disabled
  constructor
  · have held : staged.stagedOutbound.get? 0 = some gasRelay := rfl
    have numbersLeft : staged.router.nextOrder < Word.greatest 8 := Nat.succ_pos _
    obtain ⟨peer, registered, -, -, -, -, same⟩ := staged_transfer_initiates held numbersLeft
    have mem : ⟨_, _⟩ ∈ (fresh (.standard 1) .empty).history gasRelayEvents :=
      List.mem_cons_of_mem _ (List.mem_cons_of_mem _ List.mem_cons_self)
    obtain ⟨first, known, initiates⟩ := same _ mem rfl
    cases registered
    cases known
    obtain ⟨transfer, initiated, carries⟩ := initiates rfl
    exact ⟨held, numbersLeft, transfer, initiated, carries ⟨3⟩ 5 50 rfl⟩
  · have held : disabled.stagedOutbound.get? 0 = some gasRelay := rfl
    have numbersLeft : disabled.router.nextOrder < Word.greatest 8 := Nat.succ_pos _
    obtain ⟨peer, registered, -, relays, -⟩ := staged_transfer_initiates held numbersLeft
    cases registered
    exact ⟨held, numbersLeft, (relays ⟨3⟩ 5 50 rfl).unquoted .relayingDisabled rfl⟩

end Deployment
end SwapRelay
