import SwapRelay.Proofs.Administration

/-!
# What operations do

For each operation that moves USDC, exactly when it succeeds and what it then gives back and leaves
behind. `Effect` sums up what a success of any operation can do, with a case for each move of USDC;
the histories of a deployment are studied through it.
-/

namespace SwapRelay

def PeerFill.toStaged (received : PeerFill) (stagedBy sender : Address) (body : Bytes) :
    StagedInbound :=
  ⟨received.fill.amount, stagedBy, received.fill.sourceChain, sender, received.message.recipient,
    false, body⟩

/-- A payout of a relay whose message names a drop-off and a fee. A recipient that pays itself gets
all of the amount and no drop-off. -/
structure RelayPayout.Settles (payout : RelayPayout) (payer recipient feeRecipient : Address)
    (amount : Word 8) (gasDropoff : GasDropoff) (fee : Word 6) : Prop where
  recipient_eq : payout.recipient = recipient
  feeRecipient_eq : payout.feeRecipient = feeRecipient
  sum_eq : payout.userAmount.val + payout.fee.val = amount.val
  fee_eq : payout.fee = if payer = recipient then 0 else feeAmount fee
  gasDropoff_eq : payout.gasDropoff = if payer = recipient then 0 else gasDropoff.wei

namespace RelayPayout

variable {payout : RelayPayout} {payer recipient feeRecipient : Address} {amount : Word 8}
  {gasDropoff : GasDropoff} {fee : Word 6}

theorem settles_iff_of_eq (collected : payer = recipient) :
    payout.Settles payer recipient feeRecipient amount gasDropoff fee ↔
      payout = ⟨recipient, amount, 0, feeRecipient, 0⟩ := by
  obtain ⟨paid, userAmount, dropoff, charged, kept⟩ := payout
  constructor
  · rintro ⟨rfl, rfl, sum, fees, dropoffs⟩
    rw [if_pos collected] at fees dropoffs
    dsimp only at sum fees dropoffs
    subst fees dropoffs
    have : userAmount = amount := Fin.ext sum
    rw [this]
  · intro same
    cases same
    exact ⟨rfl, rfl, rfl, (if_pos collected).symm, (if_pos collected).symm⟩

theorem settles_iff_of_ne (relayed : payer ≠ recipient) :
    payout.Settles payer recipient feeRecipient amount gasDropoff fee ↔
      ∃ userAmount : Word 8, userAmount.val + fee.val = amount.val ∧
        payout = ⟨recipient, userAmount, gasDropoff.wei, feeRecipient, feeAmount fee⟩ := by
  obtain ⟨paid, userAmount, dropoff, charged, kept⟩ := payout
  constructor
  · rintro ⟨rfl, rfl, sum, fees, dropoffs⟩
    rw [if_neg relayed] at fees dropoffs
    dsimp only at sum fees dropoffs
    subst fees dropoffs
    exact ⟨userAmount, sum, rfl⟩
  · rintro ⟨left, sum, same⟩
    cases same
    exact ⟨rfl, rfl, sum, (if_neg relayed).symm, (if_neg relayed).symm⟩

theorem exists_settles (payer recipient feeRecipient : Address) (amount : Word 8)
    (gasDropoff : GasDropoff) {fee : Word 6}
    (covered : payer = recipient ∨ fee.val ≤ amount.val) :
    ∃ payout : RelayPayout, payout.Settles payer recipient feeRecipient amount gasDropoff fee := by
  by_cases collected : payer = recipient
  · exact ⟨_, (settles_iff_of_eq collected).mpr rfl⟩
  · have enough : fee.val ≤ amount.val := covered.resolve_left collected
    have fits : amount.val - fee.val < 256 ^ 8 := Nat.lt_of_le_of_lt (Nat.sub_le _ _) amount.isLt
    have sum : amount.val - fee.val + fee.val = amount.val := Nat.sub_add_cancel enough
    exact ⟨_, (settles_iff_of_ne collected).mpr ⟨⟨_, fits⟩, sum, rfl⟩⟩

end RelayPayout

namespace Deployment

section Custody

variable {ρ : Type} {deployment after : Deployment ρ}

theorem perform_stageOutbound_eq_ok_iff {request : StagingRequest} {id : StagedId} :
    deployment.perform (stageOutbound request) = (.ok id, after) ↔
      ∃ record, deployment.stagedRecord request = .ok record ∧
        ∃ next : StagedId, next.val = deployment.nextStagedOutbound.val + 1 ∧
        id = deployment.nextStagedOutbound ∧ after = { deployment with
          nextStagedOutbound := next
          stagedOutbound :=
            deployment.stagedOutbound.insert deployment.nextStagedOutbound record } := by
  simp only [stageOutbound, perform_get_bind, perform_check_bind_eq_ok_iff, perform_set_bind,
    perform_pure_eq_ok_iff, within_eq_ok_iff]

theorem perform_closeStagedOutbound_eq_ok_iff {sender : Address} {id : StagedId} {refund : Refund} :
    deployment.perform (closeStagedOutbound sender id) = (.ok refund, after) ↔
      ∃ staged, deployment.stagedOutbound.get? id = some staged ∧ staged.sender = sender ∧
        refund = ⟨sender, staged.preparedBy, staged.custodyAmount⟩ ∧ after = { deployment with
          stagedOutbound := deployment.stagedOutbound.erase id } := by
  simp only [closeStagedOutbound, dropStagedOutbound, perform_get_bind,
    perform_check_bind_eq_ok_iff, perform_modify_bind, perform_pure_eq_ok_iff,
    requireStagedOutbound_eq_ok_iff, require_eq_ok_iff, exists_const]

theorem perform_releaseInbound_eq_ok_iff {recipient dstToken beneficiary : Address} {id : FillId}
    {result : ReleasedInbound} :
    deployment.perform (releaseInbound recipient dstToken beneficiary id) = (.ok result, after) ↔
      ∃ staged, deployment.stagedInbound.get? id = some staged ∧ staged.recipient = recipient ∧
        result = ⟨dstToken, staged.custodyAmount, beneficiary, staged.sourceChain, staged.sender,
          staged.payload⟩ ∧ after = { deployment with
          stagedInbound := deployment.stagedInbound.erase id } := by
  simp only [releaseInbound, perform_get_bind, perform_check_bind_eq_ok_iff, perform_set_bind,
    perform_pure_eq_ok_iff, requireStagedInbound_eq_ok_iff, require_eq_ok_iff, exists_const]

variable [TokenRouter ρ]

theorem perform_prepareOrder_eq_ok_iff_taken {order : MarketOrder} {number : OrderId} :
    deployment.perform (prepareOrder order) = (.ok number, after) ↔
      ∃ router, (TokenRouter.prepareMarketOrder order).run deployment.router =
          .ok number router ∧
        after = { deployment with router } :=
  perform_onRouter_eq_ok_iff

theorem perform_initiateTransfer_eq_ok_iff_taken {payer refundToken : Address} {id : StagedId}
    {transfer : InitiatedTransfer} :
    deployment.perform (initiateTransfer payer refundToken id) = (.ok transfer, after) ↔
      ∃ order, deployment.orderFor payer refundToken id = .ok order ∧ ∃ number router,
        (TokenRouter.prepareMarketOrder order).run deployment.router = .ok number router ∧
        transfer = ⟨number, order.amountIn, order.redeemerMessage⟩ ∧
        after = { deployment with
          router
          stagedOutbound := deployment.stagedOutbound.erase id } := by
  rw [initiateTransfer, perform_get_bind, perform_check_bind_eq_ok_iff]
  refine exists_congr fun order => and_congr_right fun _ => ?_
  simp only [perform_bind_eq_ok_iff, perform_prepareOrder_eq_ok_iff_taken, dropStagedOutbound,
    perform_modify_bind, perform_pure_eq_ok_iff]
  constructor
  · rintro ⟨number, _, ⟨router, taken, rfl⟩, rfl, rfl⟩
    exact ⟨number, router, taken, rfl, rfl⟩
  · rintro ⟨number, router, taken, rfl, rfl⟩
    exact ⟨number, _, ⟨router, taken, rfl⟩, rfl, rfl⟩

end Custody

variable {deployment after : Deployment MemoryRouter}

theorem perform_initiateTransfer_eq_ok_iff {payer refundToken : Address} {id : StagedId}
    {transfer : InitiatedTransfer} :
    deployment.perform (initiateTransfer payer refundToken id) = (.ok transfer, after) ↔
      ∃ order, deployment.orderFor payer refundToken id = .ok order ∧ order.amountIn ≠ 0 ∧
        ∃ number : OrderId, number.val = deployment.router.nextOrder.val + 1 ∧
        transfer = ⟨deployment.router.nextOrder, order.amountIn, order.redeemerMessage⟩ ∧
        after = { deployment.fileOrder order number with
          stagedOutbound := deployment.stagedOutbound.erase id } := by
  simp only [initiateTransfer, dropStagedOutbound, perform_get_bind, perform_check_bind_eq_ok_iff,
    perform_prepareOrder_bind_eq_ok_iff, perform_modify_bind, perform_pure_eq_ok_iff]
  rfl

theorem exists_held_of_readFill {id : FillId} {received : PeerFill} {P : Fill → Prop}
    (read : deployment.readFill id = .ok received) :
    (∃ fill, deployment.router.fills.get? id = some fill ∧ P fill) ↔ P received.fill := by
  rw [(readFill_eq_ok_iff.mp read).1]
  simp

theorem perform_completeDirect_eq_ok_iff {recipient : Address} {id : FillId}
    {payout : DirectPayout} :
    deployment.perform (completeDirect recipient id) = (.ok payout, after) ↔
      ∃ received, deployment.readFill id = .ok received ∧
        received.requireDirect recipient = .ok () ∧
        payout = ⟨recipient, received.fill.amount⟩ ∧ after = deployment.dropFill id := by
  simp only [completeDirect, perform_get_bind, perform_check_bind_eq_ok_iff,
    perform_consumeFill_bind_eq_ok_iff, perform_pure_eq_ok_iff]
  refine exists_congr fun received => and_congr_right fun read => ?_
  rw [exists_held_of_readFill read]
  simp

theorem perform_settle_eq_ok_iff {payer recipient feeRecipient : Address} {amount : Word 8}
    {gasDropoff : GasDropoff} {fee : Word 6} {payout : RelayPayout} :
    deployment.perform
        (if payer = recipient then return ⟨recipient, amount, 0, feeRecipient, 0⟩
        else do
          require (fee.val ≤ amount.val) .invalidRelayerFee
          let userAmount ← within 8 (amount.val - fee.val)
          return ⟨recipient, userAmount, gasDropoff.wei, feeRecipient, feeAmount fee⟩) =
        (.ok payout, after) ↔
      (payer = recipient ∨ fee.val ≤ amount.val) ∧
        payout.Settles payer recipient feeRecipient amount gasDropoff fee ∧ after = deployment := by
  by_cases collected : payer = recipient
  · rw [if_pos collected, perform_pure_eq_ok_iff, RelayPayout.settles_iff_of_eq collected]
    simp [collected]
  · rw [if_neg collected, RelayPayout.settles_iff_of_ne collected]
    simp only [perform_check_bind_eq_ok_iff, perform_pure_eq_ok_iff, require_eq_ok_iff,
      within_eq_ok_iff, exists_const]
    constructor
    · rintro ⟨enough, left, rest, same, kept⟩
      exact ⟨.inr enough, ⟨left, by omega, same⟩, kept⟩
    · rintro ⟨covered, ⟨left, sum, same⟩, kept⟩
      exact ⟨covered.resolve_left collected, left, by omega, same, kept⟩

theorem perform_completeRelay_eq_ok_iff {payer recipient : Address} {id : FillId} {now : Int64}
    {payout : RelayPayout} :
    deployment.perform (completeRelay payer recipient id now) = (.ok payout, after) ↔
      ∃ received custodian gasDropoff fee, deployment.readFill id = .ok received ∧
        received.relayTo recipient = .ok (gasDropoff, fee) ∧
        received.requirePayable now = .ok () ∧
        (payer = recipient ∨ fee.val ≤ received.fill.amount.val) ∧
        deployment.custodian = some custodian ∧
        payout.Settles payer recipient custodian.feeRecipient received.fill.amount gasDropoff fee ∧
        after = deployment.dropFill id := by
  simp only [completeRelay, perform_get_bind, perform_check_bind_eq_ok_iff, Prod.exists,
    perform_consumeFill_bind_eq_ok_iff, perform_settle_eq_ok_iff, payableRelay_eq_ok_iff]
  constructor
  · rintro ⟨_, gasDropoff, fee,
      ⟨received, custodian, read, relayed, payable, covered, charged, rfl⟩, found⟩
    rw [exists_held_of_readFill read] at found
    exact ⟨received, custodian, gasDropoff, fee, read, relayed, payable, covered, charged, found.2⟩
  · rintro ⟨received, custodian, gasDropoff, fee, read, relayed, payable, covered, charged, paid⟩
    refine ⟨_, gasDropoff, fee,
      ⟨received, custodian, read, relayed, payable, covered, charged, rfl⟩, ?_⟩
    rw [exists_held_of_readFill read]
    exact ⟨covered, paid⟩

/-- A relay that may be paid out is paid out, since the router hands over what it has announced. -/
theorem perform_completeRelay_of_payableRelay {payer recipient : Address} {id : FillId}
    {now : Int64} {relay : Address × GasDropoff × Word 6}
    (payable : deployment.payableRelay payer recipient id now = .ok relay) :
    ∃ received payout, deployment.readFill id = .ok received ∧
      payout.Settles payer recipient relay.1 received.fill.amount relay.2.1 relay.2.2 ∧
      deployment.perform (completeRelay payer recipient id now) =
        (.ok payout, deployment.dropFill id) := by
  obtain ⟨received, custodian, read, relayed, due, covered, charged, same⟩ :=
    payableRelay_eq_ok_iff.mp payable
  obtain ⟨payout, settled⟩ := RelayPayout.exists_settles payer recipient relay.1
    received.fill.amount relay.2.1 covered
  refine ⟨received, payout, read, settled, perform_completeRelay_eq_ok_iff.mpr ?_⟩
  rw [← same] at settled
  exact ⟨received, custodian, relay.2.1, relay.2.2, read, relayed, due, covered, charged, settled,
    rfl⟩

theorem perform_completePayload_eq_ok_iff {stagedBy : Address} {id : FillId} {done : Unit} :
    deployment.perform (completePayload stagedBy id) = (.ok done, after) ↔
      ∃ received sender body, deployment.readFill id = .ok received ∧
        received.payload = .ok (sender, body) ∧ deployment.stagedInbound.get? id = none ∧
        after = { deployment.dropFill id with
          stagedInbound :=
            deployment.stagedInbound.insert id (received.toStaged stagedBy sender body) } := by
  simp only [completePayload, perform_get_bind, perform_check_bind_eq_ok_iff, Prod.exists,
    perform_consumeFill_bind_eq_ok_iff, perform_modify_eq_ok_iff, unstagedPayload_eq_ok_iff]
  refine exists_congr fun received => exists_congr fun sender => exists_congr fun body => ?_
  constructor
  · rintro ⟨⟨read, taken, vacant⟩, found⟩
    rw [exists_held_of_readFill read] at found
    exact ⟨read, taken, vacant, found⟩
  · rintro ⟨read, taken, vacant, left⟩
    refine ⟨⟨read, taken, vacant⟩, ?_⟩
    rw [exists_held_of_readFill read]
    exact left

/-- What an operation that succeeds can have given back and left behind. -/
inductive Effect (before : Deployment MemoryRouter) :
    Operation → Outcome → Deployment MemoryRouter → Prop
  /-- The accounts in charge change. -/
  | appointed (operation : Operation) (administrative : operation.IsAdministrative)
      (custodian : Custodian) :
    before.Effect operation .done { before with custodian := some custodian }
  /-- Peers and their terms change, under a custodian. -/
  | registered (operation : Operation) (administrative : operation.IsAdministrative)
      (custodian : Custodian) (charged : before.custodian = some custodian)
      (peers : Table 2 Peer) :
    before.Effect operation .done { before with peers }
  | staged (request : StagingRequest) (record : StagedOutbound) (next : StagedId)
      (accepted : before.stagedRecord request = .ok record)
      (follows : next.val = before.nextStagedOutbound.val + 1) :
    before.Effect (.stageOutbound request) (.staged before.nextStagedOutbound) { before with
      nextStagedOutbound := next
      stagedOutbound := before.stagedOutbound.insert before.nextStagedOutbound record }
  | closed (id : StagedId) (staged : StagedOutbound)
      (held : before.stagedOutbound.get? id = some staged) :
    before.Effect (.closeStagedOutbound staged.sender id)
      (.refunded ⟨staged.sender, staged.preparedBy, staged.custodyAmount⟩)
      { before with stagedOutbound := before.stagedOutbound.erase id }
  | initiated (payer refundToken : Address) (id : StagedId) (order : MarketOrder) (next : OrderId)
      (ordered : before.orderFor payer refundToken id = .ok order)
      (follows : next.val = before.router.nextOrder.val + 1) :
    before.Effect (.initiateTransfer payer refundToken id)
      (.initiated ⟨before.router.nextOrder, order.amountIn, order.redeemerMessage⟩)
      { before.fileOrder order next with stagedOutbound := before.stagedOutbound.erase id }
  | paidDirect (recipient : Address) (id : FillId) (received : PeerFill)
      (read : before.readFill id = .ok received)
      (directed : received.requireDirect recipient = .ok ()) :
    before.Effect (.completeDirect recipient id) (.paidDirect ⟨recipient, received.fill.amount⟩)
      (before.dropFill id)
  | paidRelay (payer recipient : Address) (id : FillId) (now : Int64) (received : PeerFill)
      (custodian : Custodian) (gasDropoff : GasDropoff) (fee : Word 6) (payout : RelayPayout)
      (read : before.readFill id = .ok received)
      (relayed : received.relayTo recipient = .ok (gasDropoff, fee))
      (payable : received.requirePayable now = .ok ())
      (settled : payout.Settles payer recipient custodian.feeRecipient received.fill.amount
        gasDropoff fee) :
    before.Effect (.completeRelay payer recipient id now) (.paidRelay payout) (before.dropFill id)
  | stagedInbound (stagedBy sender : Address) (body : Bytes) (id : FillId) (received : PeerFill)
      (read : before.readFill id = .ok received)
      (taken : received.payload = .ok (sender, body))
      (vacant : before.stagedInbound.get? id = none) :
    before.Effect (.completePayload stagedBy id) .done { before.dropFill id with
      stagedInbound := before.stagedInbound.insert id (received.toStaged stagedBy sender body) }
  | released (dstToken beneficiary : Address) (id : FillId) (staged : StagedInbound)
      (held : before.stagedInbound.get? id = some staged) :
    before.Effect (.releaseInbound staged.recipient dstToken beneficiary id)
      (.released ⟨dstToken, staged.custodyAmount, beneficiary, staged.sourceChain, staged.sender,
        staged.payload⟩)
      { before with stagedInbound := before.stagedInbound.erase id }

theorem Administers.effect {operation : Operation}
    (administers : deployment.Administers operation after)
    (administrative : operation.IsAdministrative) : deployment.Effect operation .done after := by
  cases administers with
  | appointed appointment => exact .appointed _ administrative _
  | registered charged registration => exact .registered _ administrative _ charged _

/-- Every success is one of the cases. -/
theorem effect_of_step_eq_ok {operation : Operation} {outcome : Outcome}
    (accepted : deployment.step operation = (.ok outcome, after)) :
    deployment.Effect operation outcome after := by
  cases operation with
  | stageOutbound request =>
    obtain ⟨id, performed, rfl⟩ := perform_map_eq_ok_iff.mp accepted
    obtain ⟨record, recorded, next, follows, rfl, rfl⟩ :=
      perform_stageOutbound_eq_ok_iff.mp performed
    exact .staged request record next recorded follows
  | closeStagedOutbound sender id =>
    obtain ⟨refund, performed, rfl⟩ := perform_map_eq_ok_iff.mp accepted
    obtain ⟨staged, held, rfl, rfl, rfl⟩ := perform_closeStagedOutbound_eq_ok_iff.mp performed
    exact .closed id staged held
  | initiateTransfer payer refundToken id =>
    obtain ⟨transfer, performed, rfl⟩ := perform_map_eq_ok_iff.mp accepted
    obtain ⟨order, ordered, -, next, follows, rfl, rfl⟩ :=
      perform_initiateTransfer_eq_ok_iff.mp performed
    exact .initiated payer refundToken id order next ordered follows
  | completeDirect recipient id =>
    obtain ⟨payout, performed, rfl⟩ := perform_map_eq_ok_iff.mp accepted
    obtain ⟨received, read, directed, rfl, rfl⟩ := perform_completeDirect_eq_ok_iff.mp performed
    exact .paidDirect recipient id received read directed
  | completeRelay payer recipient id now =>
    obtain ⟨payout, performed, rfl⟩ := perform_map_eq_ok_iff.mp accepted
    obtain ⟨received, custodian, gasDropoff, fee, read, relayed, payable, -, -, settled, rfl⟩ :=
      perform_completeRelay_eq_ok_iff.mp performed
    exact .paidRelay payer recipient id now received custodian gasDropoff fee payout read relayed
      payable settled
  | completePayload stagedBy id =>
    obtain ⟨done, performed, rfl⟩ := perform_map_eq_ok_iff.mp accepted
    obtain ⟨received, sender, body, read, taken, vacant, rfl⟩ :=
      perform_completePayload_eq_ok_iff.mp performed
    exact .stagedInbound stagedBy sender body id received read taken vacant
  | releaseInbound recipient dstToken beneficiary id =>
    obtain ⟨result, performed, rfl⟩ := perform_map_eq_ok_iff.mp accepted
    obtain ⟨staged, held, rfl, rfl, rfl⟩ := perform_releaseInbound_eq_ok_iff.mp performed
    exact .released dstToken beneficiary id staged held
  | _ =>
    obtain ⟨rfl, administers⟩ := administers_of_step_eq_ok (by trivial) accepted
    exact administers.effect (by trivial)

end Deployment
end SwapRelay
