import SwapRelay.Proofs.Invariants
import SwapRelay.Proofs.Reading

/-!
# Delivery between two deployments

A transfer that one deployment has initiated arrives at another one, which has the first as a peer.
The message is read as it was written, so whatever the sender asked for when staging is what the
recipient meets: the amount, the payload, or the relay with the fee quoted at initiation.
-/

namespace SwapRelay

/-- The redeem mode that an initiated transfer carries: that of the staged one, with the fee of a
relay quoted by the present terms of the peer. -/
def StagedOutbound.Carries (staged : StagedOutbound) (overheads : GasOverheads)
    (terms : RelayTerms) (mode : RedeemMode) : Prop :=
  match staged.redeem with
  | .direct => mode = .direct
  | .payload body => mode = .payload staged.sender body
  | .relay gasDropoff _ maxFee =>
    ∃ fee, terms.relayerFee overheads gasDropoff staged.outputToken = .ok fee ∧
      fee.val ≤ maxFee.val ∧ fee.val < staged.custodyAmount.val ∧ mode = .relay gasDropoff fee

namespace Deployment

variable {source destination : Deployment MemoryRouter}

theorem carries_of_requote {ρ : Type} {source : Deployment ρ} {terms : RelayTerms}
    {staged requoted : StagedOutbound} {message : Bytes}
    (quoted : source.requote terms staged = .ok requoted)
    (encoded : requoted.encodeMessage = .ok message) :
    ∃ mode, staged.Carries source.settings.gasOverheads terms mode ∧
      SwapMessage.encode ⟨staged.recipient, mode, staged.outputToken⟩ = .ok message := by
  obtain ⟨mode, chosen, written⟩ := StagedOutbound.encodeMessage_eq_ok_iff.mp encoded
  have quoted := requote_eq_ok_iff.mp quoted
  have chosen := StagedOutbound.redeemMode_eq_ok_iff.mp chosen
  unfold StagedOutbound.Carries
  cases redeem : staged.redeem with
  | direct =>
    simp only [redeem] at quoted
    subst quoted
    simp only [redeem] at chosen
    exact ⟨mode, chosen, written⟩
  | payload body =>
    simp only [redeem] at quoted
    subst quoted
    simp only [redeem] at chosen
    exact ⟨mode, chosen.2, written⟩
  | relay gasDropoff stale maxFee =>
    simp only [redeem] at quoted
    obtain ⟨fee, charged, within, covered, rfl⟩ := quoted
    obtain ⟨short, same, rfl⟩ := chosen
    have : short = fee := Fin.ext same
    subst this
    exact ⟨_, ⟨short, charged, within, covered, rfl⟩, written⟩

theorem initiated_carries {payer refundToken : Address} {number : StagedId}
    {staged : StagedOutbound} {transfer : InitiatedTransfer}
    (held : source.stagedOutbound.get? number = some staged)
    (initiated : (source.step (.initiateTransfer payer refundToken number)).1 =
      .ok (.initiated transfer)) :
    transfer.amountIn = staged.custodyAmount ∧
      ∃ target mode, source.peers.get? staged.targetChain = some target ∧
        staged.Carries source.settings.gasOverheads target.terms mode ∧
        SwapMessage.encode ⟨staged.recipient, mode, staged.outputToken⟩ =
          .ok transfer.redeemerMessage := by
  have performed : source.step (.initiateTransfer payer refundToken number) =
      (.ok (.initiated transfer), (source.step (.initiateTransfer payer refundToken number)).2) :=
    Prod.ext initiated rfl
  obtain ⟨found, performed, same⟩ := perform_map_eq_ok_iff.mp performed
  cases same
  obtain ⟨order, ordered, -, -, -, rfl, -⟩ := perform_initiateTransfer_eq_ok_iff.mp performed
  obtain ⟨record, target, requoted, message, found, -, -, registered, quoted, encoded, rfl⟩ :=
    orderFor_eq_ok_iff.mp ordered
  cases held.symm.trans found
  obtain ⟨mode, carried, written⟩ := carries_of_requote quoted encoded
  exact ⟨rfl, target, mode, registered, carried, written⟩

theorem readFill_delivered {id : FillId} {fill : Fill} {peer : Peer} {message : SwapMessage}
    (written : message.encode = .ok fill.redeemerMessage)
    (registered : destination.peers.get? fill.sourceChain = some peer)
    (sent : peer.address = fill.orderSender) :
    (destination.after (.delivered id fill)).readFill id = .ok ⟨fill, peer, message⟩ := by
  refine readFill_eq_ok_iff.mpr ⟨?_, SwapMessage.decode_of_encode written, registered, sent⟩
  change (destination.router.fills.insert id fill).get? id = some fill
  rw [Table.get?_insert_self]

section Arrived

variable {arrived : Deployment MemoryRouter} {id : FillId} {received : PeerFill}

theorem step_completeDirect_of_readFill (read : arrived.readFill id = .ok received)
    (mode : received.message.redeemMode = .direct) (token : received.message.outputToken = .usdc) :
    (arrived.step (.completeDirect received.message.recipient id)).1 =
      .ok (.paidDirect ⟨received.message.recipient, received.fill.amount⟩) := by
  have directed : received.requireDirect received.message.recipient = .ok () :=
    PeerFill.requireDirect_eq_ok_iff.mpr ⟨mode, token, rfl⟩
  have step : arrived.step (.completeDirect received.message.recipient id) =
      (.ok (.paidDirect ⟨received.message.recipient, received.fill.amount⟩),
        arrived.dropFill id) := by
    refine perform_map_eq_ok_iff.mpr ⟨_, ?_, rfl⟩
    exact perform_completeDirect_eq_ok_iff.mpr ⟨received, read, directed, rfl, rfl⟩
  rw [step]

theorem step_completePayload_of_readFill (read : arrived.readFill id = .ok received)
    {sender : Address} {body : Bytes} (mode : received.message.redeemMode = .payload sender body)
    (token : received.message.outputToken = .usdc)
    (vacant : arrived.stagedInbound.get? id = none) (stagedBy : Address) :
    ∃ after, arrived.step (.completePayload stagedBy id) = (.ok .done, after) ∧
      after.stagedInbound.get? id = some (received.toStaged stagedBy sender body) := by
  have taken : received.payload = .ok (sender, body) :=
    PeerFill.payload_eq_ok_iff.mpr ⟨mode, token⟩
  refine ⟨{ arrived.dropFill id with
    stagedInbound := arrived.stagedInbound.insert id (received.toStaged stagedBy sender body) },
    perform_map_eq_ok_iff.mpr ⟨(), ?_, rfl⟩, Table.get?_insert_self _ _ _⟩
  exact perform_completePayload_eq_ok_iff.mpr ⟨received, sender, body, read, taken, vacant, rfl⟩

theorem step_releaseInbound_of_held {staged : StagedInbound}
    (held : arrived.stagedInbound.get? id = some staged) (dstToken beneficiary : Address) :
    (arrived.step (.releaseInbound staged.recipient dstToken beneficiary id)).1 =
      .ok (.released ⟨dstToken, staged.custodyAmount, beneficiary, staged.sourceChain,
        staged.sender, staged.payload⟩) := by
  have step : arrived.step (.releaseInbound staged.recipient dstToken beneficiary id) =
      (.ok (.released ⟨dstToken, staged.custodyAmount, beneficiary, staged.sourceChain,
        staged.sender, staged.payload⟩),
        { arrived with stagedInbound := arrived.stagedInbound.erase id }) := by
    refine perform_map_eq_ok_iff.mpr ⟨_, ?_, rfl⟩
    exact perform_releaseInbound_eq_ok_iff.mpr ⟨staged, held, rfl, rfl, rfl⟩
  rw [step]

theorem step_completeRelay_of_readFill (read : arrived.readFill id = .ok received)
    {gasDropoff : GasDropoff} {fee : Word 6} {custodian : Custodian} {now : Int64}
    (mode : received.message.redeemMode = .relay gasDropoff fee)
    (payable : received.requirePayable now = .ok ())
    (covered : fee.val ≤ received.fill.amount.val)
    (charged : arrived.custodian = some custodian) (payer : Address) :
    ∃ payout, (arrived.step (.completeRelay payer received.message.recipient id now)).1 =
        .ok (.paidRelay payout) ∧
      payout.Settles payer received.message.recipient custodian.feeRecipient received.fill.amount
        gasDropoff fee := by
  have relayed : received.relayTo received.message.recipient = .ok (gasDropoff, fee) :=
    PeerFill.relayTo_eq_ok_iff.mpr ⟨mode, rfl⟩
  have due : arrived.payableRelay payer received.message.recipient id now =
      .ok (custodian.feeRecipient, gasDropoff, fee) :=
    payableRelay_eq_ok_iff.mpr
      ⟨received, custodian, read, relayed, payable, .inr covered, charged, rfl⟩
  obtain ⟨found, payout, again, settled, paid⟩ := perform_completeRelay_of_payableRelay due
  cases read.symm.trans again
  have step : arrived.step (.completeRelay payer received.message.recipient id now) =
      (.ok (.paidRelay payout), arrived.dropFill id) :=
    perform_map_eq_ok_iff.mpr ⟨payout, paid, rfl⟩
  exact ⟨payout, congrArg Prod.fst step, settled⟩

end Arrived

/-- What is staged at one deployment is what is handed out at another one that has it as a peer. The
transfer is initiated, and arrives there under a key of which nothing is staged. (1) If it is direct
and in USDC, then its recipient collects all of the amount. (2) If it has a payload and is in USDC,
then anyone can stage it, and its recipient collects the amount with the sender's payload. (3) If it
is to be relayed, in USDC or with the time for its swap passed, then anyone can pay out its
recipient, less the fee quoted at initiation, and the recipient can collect all of it. -/
theorem transfer_is_delivered {payer refundToken : Address} {number : StagedId}
    {staged : StagedOutbound} {transfer : InitiatedTransfer} {peer : Peer} {id : FillId}
    (reachable : destination.Reachable)
    (registered : destination.peers.get? source.settings.chain = some peer)
    (held : source.stagedOutbound.get? number = some staged)
    (initiated : (source.step (.initiateTransfer payer refundToken number)).1 =
      .ok (.initiated transfer))
    (vacant : destination.stagedInbound.get? id = none) (kind : FillKind) (timestamp : Int64) :
    let arrived := destination.after (.delivered id ⟨source.settings.chain, peer.address,
      transfer.redeemerMessage, kind, timestamp, transfer.amountIn⟩)
    (staged.redeem = .direct → staged.outputToken = .usdc →
      (arrived.step (.completeDirect staged.recipient id)).1 =
        .ok (.paidDirect ⟨staged.recipient, transfer.amountIn⟩)) ∧
    (∀ body, staged.redeem = .payload body → staged.outputToken = .usdc →
      ∀ stagedBy dstToken beneficiary,
        (arrived.step (.completePayload stagedBy id)).1 = .ok .done ∧
        ((arrived.step (.completePayload stagedBy id)).2.step
            (.releaseInbound staged.recipient dstToken beneficiary id)).1 =
          .ok (.released ⟨dstToken, transfer.amountIn, beneficiary, source.settings.chain,
            staged.sender, body⟩)) ∧
    (∀ gasDropoff quoted maxFee now, staged.redeem = .relay gasDropoff quoted maxFee →
      (staged.outputToken = .usdc ∨
        peer.terms.swapTimeLimit.Passed (now.toInt - timestamp.toInt) kind) →
      ∃ custodian target fee, destination.custodian = some custodian ∧
        source.peers.get? staged.targetChain = some target ∧
        target.terms.relayerFee source.settings.gasOverheads gasDropoff staged.outputToken =
          .ok fee ∧
        fee.val ≤ maxFee.val ∧ fee.val < transfer.amountIn.val ∧
        ∀ relayer, ∃ payout,
          (arrived.step (.completeRelay relayer staged.recipient id now)).1 =
            .ok (.paidRelay payout) ∧
          payout.Settles relayer staged.recipient custodian.feeRecipient transfer.amountIn
            gasDropoff fee) := by
  intro arrived
  obtain ⟨amount, target, mode, known, carried, written⟩ := initiated_carries held initiated
  let received : PeerFill := ⟨⟨source.settings.chain, peer.address, transfer.redeemerMessage, kind,
    timestamp, transfer.amountIn⟩, peer, ⟨staged.recipient, mode, staged.outputToken⟩⟩
  have read : arrived.readFill id = .ok received := readFill_delivered written registered rfl
  refine ⟨?_, ?_, ?_⟩
  · intro redeem token
    have direct : mode = .direct := by simpa only [StagedOutbound.Carries, redeem] using carried
    have paid := step_completeDirect_of_readFill read direct token
    exact paid
  · intro body redeem token stagedBy dstToken beneficiary
    have payload : mode = .payload staged.sender body := by
      simpa only [StagedOutbound.Carries, redeem] using carried
    obtain ⟨after, completed, staged⟩ :=
      step_completePayload_of_readFill read payload token vacant stagedBy
    have released := step_releaseInbound_of_held staged dstToken beneficiary
    rw [completed]
    exact ⟨rfl, released⟩
  · intro gasDropoff quoted maxFee now redeem due
    obtain ⟨fee, charged, accepted, covered, relay⟩ :
        ∃ fee, target.terms.relayerFee source.settings.gasOverheads gasDropoff staged.outputToken =
            .ok fee ∧
          fee.val ≤ maxFee.val ∧ fee.val < staged.custodyAmount.val ∧
          mode = .relay gasDropoff fee := by
      simpa only [StagedOutbound.Carries, redeem] using carried
    obtain ⟨custodian, named⟩ := reachable.custodian_of_peer registered
    rw [← amount] at covered
    have noSwap : staged.outputToken = .usdc → staged.outputToken.swap? = none := by
      intro token
      rw [token]
      rfl
    have payable : received.requirePayable now = .ok () :=
      PeerFill.requirePayable_eq_ok_iff.mpr (due.imp_left noSwap)
    refine ⟨custodian, target, fee, named, known, charged, accepted, covered, fun relayer => ?_⟩
    have within : fee.val ≤ transfer.amountIn.val := Nat.le_of_lt covered
    have paid := step_completeRelay_of_readFill read relay payable within named relayer
    exact paid

def flatTerms : RelayTerms := ⟨5, 1, ⟨10⟩, 0, some ⟨⟨1⟩, 0⟩, Settings.standardTimeLimit⟩

/-- A deployment on chain 1 where a relay of 100 to chain 2 is staged. -/
def stagedRelay : Deployment MemoryRouter :=
  (fresh (.standard 1) .empty).run
    [ .asked (.install 11 12 13 14),
      .asked (.addPeer 11 2 22 flatTerms),
      .asked (.stageOutbound ⟨5, 6, 4, 100, true, 2, 7, some (.relay ⟨3⟩ 50), none⟩) ]

def awaitingRelay : Deployment MemoryRouter :=
  (fresh (.standard 2) .empty).run
    [ .asked (.install 31 32 33 34),
      .asked (.addPeer 31 1 21 flatTerms) ]

/-- The message of the relay, with a drop-off of 3 and a fee of 5. -/
def relayMessage : Bytes :=
  1 :: List.replicate 31 0 ++ [7] ++ [2, 0, 0, 0, 3, 0, 0, 0, 0, 0, 5] ++ [0]

theorem staged_relay_is_delivered :
    awaitingRelay.Reachable ∧
      awaitingRelay.peers.get? stagedRelay.settings.chain = some ⟨1, 21, flatTerms⟩ ∧
      stagedRelay.stagedOutbound.get? 0 = some ⟨5, 6, 2, 7, 4, .relay ⟨3⟩ 5 50, .usdc, 100⟩ ∧
      (stagedRelay.step (.initiateTransfer 5 4 0)).1 = .ok (.initiated ⟨0, 100, relayMessage⟩) ∧
      awaitingRelay.stagedInbound.get? 9 = none ∧
      ∃ custodian target fee, awaitingRelay.custodian = some custodian ∧
        stagedRelay.peers.get? 2 = some target ∧
        target.terms.relayerFee stagedRelay.settings.gasOverheads ⟨3⟩ .usdc = .ok fee ∧
        fee.val ≤ 50 ∧ fee.val < 100 ∧ ∀ relayer, ∃ payout,
          ((awaitingRelay.after (.delivered 9 ⟨1, 21, relayMessage, .fastFill, 0, 100⟩)).step
            (.completeRelay relayer 7 9 0)).1 = .ok (.paidRelay payout) ∧
          payout.Settles relayer 7 custodian.feeRecipient 100 ⟨3⟩ fee := by
  have reachable : awaitingRelay.Reachable := ⟨_, _, rfl⟩
  have registered : awaitingRelay.peers.get? stagedRelay.settings.chain =
      some ⟨1, 21, flatTerms⟩ := rfl
  have held : stagedRelay.stagedOutbound.get? 0 =
      some ⟨5, 6, 2, 7, 4, .relay ⟨3⟩ 5 50, .usdc, 100⟩ := rfl
  have initiated : (stagedRelay.step (.initiateTransfer 5 4 0)).1 =
      .ok (.initiated ⟨0, 100, relayMessage⟩) := rfl
  have vacant : awaitingRelay.stagedInbound.get? 9 = none := rfl
  have delivered := transfer_is_delivered reachable registered held initiated vacant .fastFill 0
  exact ⟨reachable, registered, held, initiated, vacant,
    delivered.2.2 ⟨3⟩ 5 50 0 rfl (.inl rfl)⟩

end Deployment
end SwapRelay
