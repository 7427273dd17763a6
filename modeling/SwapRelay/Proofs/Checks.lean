import SwapRelay.Deployment.Operation
import SwapRelay.Proofs.Folds

/-!
# What the checks accept

For each check that stands in front of a change, the exact condition under which it lets the
operation go on and what it hands over. Later modules cite these conditions and do not open the
checks again.
-/

namespace SwapRelay

@[simp] theorem within_eq_ok_iff {n value : Nat} {word : Word n} :
    within n value = .ok word ↔ word.val = value := by
  unfold within
  cases fits : Word.ofNat? n value with
  | none => simp [← Word.ofNat?_eq_some_iff, fits]
  | some found => simp [← Word.ofNat?_eq_some_iff, fits]

/-- A limit for the kind of fill has passed after a number of seconds; there is none for a fill of
no known kind. -/
def SwapTimeLimit.Passed (limit : SwapTimeLimit) (seconds : Int) : FillKind → Prop
  | .fastFill => (limit.fast.val : Int) ≤ seconds
  | .cctpDeposit => (limit.finalized.val : Int) ≤ seconds
  | .unset => False

/-- Prices are positive and margins are at most 100 percent. -/
structure RelayTerms.Acceptable (terms : RelayTerms) : Prop where
  baseFee : 0 < terms.baseFee
  nativeTokenPrice : 0 < terms.nativeTokenPrice
  gasDropoffMargin : terms.gasDropoffMargin.val ≤ fullMargin
  gasPrice : ∀ evm, terms.evm = some evm → 0 < evm.gasPrice.units
  gasPriceMargin : ∀ evm, terms.evm = some evm → evm.gasPriceMargin.val ≤ fullMargin

@[simp] theorem RelayTerms.verify_eq_ok_iff {terms : RelayTerms} {done : Unit} :
    terms.verify = .ok done ↔ terms.Acceptable := by
  unfold verify
  cases prices : terms.evm with
  | none =>
    simp only [bind_eq_ok_iff, require_eq_ok_iff, pure_eq_ok_iff, exists_const]
    constructor
    · rintro ⟨fee, price, margin, _⟩
      exact ⟨fee, price, margin, by simp [prices], by simp [prices]⟩
    · rintro ⟨fee, price, margin, _, _⟩
      exact ⟨fee, price, margin, trivial⟩
  | some evm =>
    simp only [bind_eq_ok_iff, require_eq_ok_iff, exists_const]
    constructor
    · rintro ⟨fee, price, margin, gas, gasMargin⟩
      exact ⟨fee, price, margin, by simpa [prices] using gas, by simpa [prices] using gasMargin⟩
    · rintro ⟨fee, price, margin, gas, gasMargin⟩
      exact ⟨fee, price, margin, gas evm prices, gasMargin evm prices⟩

namespace Custodian

variable {custodian : Custodian} {signer : Address} {done : Unit}

@[simp] theorem requireOwner_eq_ok_iff :
    custodian.requireOwner signer = .ok done ↔ signer = custodian.owner := by
  rw [requireOwner, require_eq_ok_iff]

@[simp] theorem requireAdmin_eq_ok_iff :
    custodian.requireAdmin signer = .ok done ↔
      signer = custodian.owner ∨ signer = custodian.assistant := by
  rw [requireAdmin, require_eq_ok_iff]

@[simp] theorem requireFeeUpdater_eq_ok_iff :
    custodian.requireFeeUpdater signer = .ok done ↔
      signer = custodian.feeUpdater ∨ signer = custodian.owner ∨ signer = custodian.assistant := by
  rw [requireFeeUpdater, require_eq_ok_iff]

end Custodian

namespace PeerFill

variable {received : PeerFill}

/-- Times are kept within bounds, which lie beyond every limit. -/
theorem le_elapsed_iff {limit : Word 4} {now : Int64} :
    (limit.val : Int) ≤ received.elapsed now ↔
      (limit.val : Int) ≤ now.toInt - received.fill.timestamp.toInt := by
  have least : Int64.minValue.toInt = -9223372036854775808 := by decide
  have greatest : Int64.maxValue.toInt = 9223372036854775807 := by decide
  have := limit.isLt
  unfold elapsed
  omega

/-- USDC is payable if no swap is wanted, or if the time for it has passed. -/
@[simp] theorem requirePayable_eq_ok_iff {now : Int64} {u : Unit} :
    received.requirePayable now = .ok u ↔
      received.message.outputToken.swap? = none ∨
        received.peer.terms.swapTimeLimit.Passed
          (now.toInt - received.fill.timestamp.toInt) received.fill.kind := by
  unfold requirePayable
  cases received.message.outputToken.swap? with
  | none => simp
  | some swap =>
    unfold timeLimit
    cases received.fill.kind with
    | unset => simp [bind_eq_ok_iff, SwapTimeLimit.Passed]
    | cctpDeposit => simp [bind_eq_ok_iff, SwapTimeLimit.Passed, le_elapsed_iff]
    | fastFill => simp [bind_eq_ok_iff, SwapTimeLimit.Passed, le_elapsed_iff]

@[simp] theorem requireDirect_eq_ok_iff {recipient : Address} {u : Unit} :
    received.requireDirect recipient = .ok u ↔
      received.message.redeemMode = .direct ∧ received.message.outputToken = .usdc ∧
        received.message.recipient = recipient := by
  simp [requireDirect, bind_eq_ok_iff]

@[simp] theorem relayTo_eq_ok_iff {recipient : Address} {relay : GasDropoff × Word 6} :
    received.relayTo recipient = .ok relay ↔
      received.message.redeemMode = .relay relay.1 relay.2 ∧
        received.message.recipient = recipient := by
  unfold relayTo
  cases received.message.redeemMode with
  | direct => simp
  | payload sender body => simp
  | relay gasDropoff fee =>
    simp only [bind_eq_ok_iff, require_eq_ok_iff, pure_eq_ok_iff, RedeemMode.relay.injEq]
    grind

@[simp] theorem payload_eq_ok_iff {content : Address × Bytes} :
    received.payload = .ok content ↔
      received.message.redeemMode = .payload content.1 content.2 ∧
        received.message.outputToken = .usdc := by
  unfold payload
  cases received.message.redeemMode with
  | direct => simp
  | payload sender body =>
    simp only [bind_eq_ok_iff, require_eq_ok_iff, pure_eq_ok_iff, RedeemMode.payload.injEq]
    grind
  | relay gasDropoff fee => simp

end PeerFill

namespace StagedOutbound

variable {staged : StagedOutbound}

theorem redeemMode_eq_ok_iff {mode : RedeemMode} :
    staged.redeemMode = .ok mode ↔
      match staged.redeem with
      | .direct => mode = .direct
      | .payload body =>
        body.length ≤ RedeemMode.maxPayload ∧ mode = .payload staged.sender body
      | .relay gasDropoff fee _ =>
        ∃ short : Word 6, short.val = fee.val ∧ mode = .relay gasDropoff short := by
  unfold redeemMode
  cases staged.redeem with
  | direct => simp [eq_comm]
  | payload body =>
    simp only [bind_eq_ok_iff, require_eq_ok_iff, pure_eq_ok_iff, exists_const]
    rw [@eq_comm _ mode]
  | relay gasDropoff fee maxFee =>
    cases fits : Word.ofNat? 6 fee.val with
    | none =>
      simp only [fits, reduceCtorEq, false_iff]
      rintro ⟨short, same, rfl⟩
      rw [Word.ofNat?_eq_some_iff.mpr same] at fits
      cases fits
    | some found =>
      have same : found.val = fee.val := Word.ofNat?_eq_some_iff.mp fits
      simp only [fits, Except.ok.injEq]
      constructor
      · rintro rfl
        exact ⟨found, same, rfl⟩
      · rintro ⟨short, equal, rfl⟩
        have : short = found := Fin.ext (equal.trans same.symm)
        rw [this]

theorem encodeMessage_eq_ok_iff {bytes : Bytes} :
    staged.encodeMessage = .ok bytes ↔
      ∃ mode, staged.redeemMode = .ok mode ∧
        SwapMessage.encode ⟨staged.recipient, mode, staged.outputToken⟩ = .ok bytes := by
  simp only [encodeMessage, toMessage, bind_eq_ok_iff, pure_eq_ok_iff]
  constructor
  · rintro ⟨_, ⟨mode, chosen, rfl⟩, encoded⟩
    refine ⟨mode, chosen, ?_⟩
    split at encoded
    · rename_i written accepted
      rw [accepted, pure_eq_ok_iff.mp encoded]
    · cases encoded
  · rintro ⟨mode, chosen, encoded⟩
    refine ⟨_, ⟨mode, chosen, rfl⟩, ?_⟩
    rw [encoded]
    rfl

end StagedOutbound

namespace StagingRequest

variable {request : StagingRequest}

theorem outputToken_eq_ok_iff {token : OutputToken} :
    request.outputToken = .ok token ↔
      match request.encodedOutputToken with
      | none => token = .usdc
      | some encoded => Wire.decode OutputToken encoded = .ok token := by
  unfold outputToken
  cases request.encodedOutputToken with
  | none => simp [eq_comm]
  | some encoded => cases decoded : Wire.decode OutputToken encoded <;> simp [decoded]

theorem relayCustody_eq_ok_iff {fee : Word 6} {custody : Word 8} :
    request.relayCustody fee = .ok custody ↔
      if request.isExactIn then fee.val < request.amountIn.val ∧ custody = request.amountIn
      else custody.val = request.amountIn.val + fee.val := by
  unfold relayCustody
  split
  · simp only [bind_eq_ok_iff, require_eq_ok_iff, pure_eq_ok_iff, exists_const]
    rw [@eq_comm _ custody]
  · exact within_eq_ok_iff

theorem redeemAt_eq_ok_iff {overheads : GasOverheads} {terms : RelayTerms} {token : OutputToken}
    {taken : Word 8 × StagedRedeem} :
    request.redeemAt overheads terms token = .ok taken ↔
      match request.redeemOption.getD .direct with
      | .direct => taken = (request.amountIn, .direct)
      | .payload body =>
        body.length ≤ RedeemMode.maxPayload ∧ taken = (request.amountIn, .payload body)
      | .relay gasDropoff maxFee =>
        gasDropoff.units ≤ terms.maxGasDropoff.units ∧
          ∃ fee, terms.relayerFee overheads gasDropoff token = .ok fee ∧ fee ≤ maxFee ∧
            ∃ custody, request.relayCustody fee = .ok custody ∧
              taken = (custody, .relay gasDropoff (feeAmount fee) (feeAmount maxFee)) := by
  unfold redeemAt
  cases request.redeemOption.getD .direct with
  | direct => simp [eq_comm]
  | payload body =>
    simp only [bind_eq_ok_iff, require_eq_ok_iff, pure_eq_ok_iff, exists_const]
    rw [@eq_comm _ taken]
  | relay gasDropoff maxFee =>
    simp only [bind_eq_ok_iff, require_eq_ok_iff, pure_eq_ok_iff, exists_const]
    simp only [@eq_comm _ taken]

end StagingRequest

namespace MemoryRouter

variable {router after : MemoryRouter}

@[simp] theorem tokenRouter_fill? (id : FillId) :
    TokenRouter.fill? router id = router.fills.get? id := rfl

@[simp] theorem tokenRouter_consumeFill (id : FillId) :
    (TokenRouter.consumeFill id : RouterAction MemoryRouter (Word 8)) = consumeFill id := rfl

@[simp] theorem tokenRouter_prepareMarketOrder (order : MarketOrder) :
    (TokenRouter.prepareMarketOrder order : RouterAction MemoryRouter OrderId) =
      prepareMarketOrder order := rfl

theorem run_consumeFill (router : MemoryRouter) (id : FillId) :
    (consumeFill id).run router =
      match router.fills.get? id with
      | some fill => .ok fill.amount { router with fills := router.fills.erase id }
      | none => .error .fillNotFound router := by
  unfold consumeFill
  rw [EStateM.run_bind, EStateM.run_get]
  cases held : router.fills.get? id <;> simp only [held] <;> rfl

theorem consumeFill_eq_ok_iff {id : FillId} {amount : Word 8} :
    (consumeFill id).run router = .ok amount after ↔
      ∃ fill, router.fills.get? id = some fill ∧ amount = fill.amount ∧
        after = { router with fills := router.fills.erase id } := by
  rw [run_consumeFill]
  cases router.fills.get? id with
  | none => simp
  | some fill => simp [eq_comm]

theorem run_prepareMarketOrder (router : MemoryRouter) (order : MarketOrder) :
    (prepareMarketOrder order).run router =
      if order.amountIn = 0 then .error (.tokenRouter "amount in must be nonzero") router
      else match Word.ofNat? 8 (router.nextOrder.val + 1) with
        | some nextOrder => .ok router.nextOrder { router with
            orders := router.orders.insert router.nextOrder order, nextOrder }
        | none => .error .amountOverflow router := by
  unfold prepareMarketOrder
  rw [run_check_bind]
  by_cases nothing : order.amountIn = 0
  · rw [if_pos nothing, require, if_neg (not_not_intro nothing)]
  · rw [if_neg nothing, require, if_pos nothing]
    change EStateM.run (liftM (within 8 (router.nextOrder.val + 1)) >>= _) router = _
    rw [run_check_bind, within]
    cases Word.ofNat? 8 (router.nextOrder.val + 1) <;> rfl

theorem prepareMarketOrder_eq_ok_iff {order : MarketOrder} {id : OrderId} :
    (prepareMarketOrder order).run router = .ok id after ↔
      order.amountIn ≠ 0 ∧ id = router.nextOrder ∧
        ∃ next : OrderId, next.val = router.nextOrder.val + 1 ∧ after = { router with
          orders := router.orders.insert router.nextOrder order
          nextOrder := next } := by
  rw [run_prepareMarketOrder]
  by_cases nothing : order.amountIn = 0
  · simp [nothing]
  · rw [if_neg nothing]
    cases fits : Word.ofNat? 8 (router.nextOrder.val + 1) with
    | none => simp [← Word.ofNat?_eq_some_iff, fits]
    | some next => simp [← Word.ofNat?_eq_some_iff, fits, nothing, eq_comm]

theorem consumeFill_kept {id : FillId} {fault : SwapError}
    (refused : (consumeFill id).run router = .error fault after) : after = router := by
  rw [run_consumeFill] at refused
  split at refused
  · cases refused
  · cases refused
    rfl

theorem prepareMarketOrder_kept {order : MarketOrder} {fault : SwapError}
    (refused : (prepareMarketOrder order).run router = .error fault after) : after = router := by
  rw [run_prepareMarketOrder] at refused
  split at refused
  · cases refused
    rfl
  · split at refused
    · cases refused
    · cases refused
      rfl

end MemoryRouter

namespace Deployment

section

variable {ρ : Type} {deployment : Deployment ρ}

@[simp] theorem requireCustodian_eq_ok_iff {custodian : Custodian} :
    deployment.requireCustodian = .ok custodian ↔ deployment.custodian = some custodian := by
  unfold requireCustodian
  cases deployment.custodian <;> simp

@[simp] theorem requirePeer_eq_ok_iff {chain : ChainId} {peer : Peer} :
    deployment.requirePeer chain = .ok peer ↔ deployment.peers.get? chain = some peer := by
  unfold requirePeer
  cases deployment.peers.get? chain <;> simp

@[simp] theorem requireForeign_eq_ok_iff {chain : ChainId} {done : Unit} :
    deployment.requireForeign chain = .ok done ↔
      chain ≠ 0 ∧ chain ≠ deployment.settings.chain := by
  rw [requireForeign, require_eq_ok_iff]

@[simp] theorem requireStagedOutbound_eq_ok_iff {id : StagedId} {staged : StagedOutbound} :
    deployment.requireStagedOutbound id = .ok staged ↔
      deployment.stagedOutbound.get? id = some staged := by
  unfold requireStagedOutbound
  cases deployment.stagedOutbound.get? id <;> simp

@[simp] theorem requireStagedInbound_eq_ok_iff {id : FillId} {staged : StagedInbound} :
    deployment.requireStagedInbound id = .ok staged ↔
      deployment.stagedInbound.get? id = some staged := by
  unfold requireStagedInbound
  cases deployment.stagedInbound.get? id <;> simp

theorem stagedRecord_eq_ok_iff {request : StagingRequest} {record : StagedOutbound} :
    deployment.stagedRecord request = .ok record ↔
      request.amountIn ≠ 0 ∧ request.recipient ≠ 0 ∧
        ∃ peer, deployment.peers.get? request.targetChain = some peer ∧
        ∃ token, request.outputToken = .ok token ∧
        ∃ custody redeem, request.redeemAt deployment.settings.gasOverheads peer.terms token =
            .ok (custody, redeem) ∧
          record = ⟨request.payer, request.sender, request.targetChain, request.recipient,
            request.refundToken, redeem, token, custody⟩ := by
  unfold stagedRecord
  simp only [bind_eq_ok_iff, require_eq_ok_iff, requirePeer_eq_ok_iff, pure_eq_ok_iff,
    exists_const, Prod.exists]
  simp only [@eq_comm _ record]

theorem requote_eq_ok_iff {terms : RelayTerms} {staged requoted : StagedOutbound} :
    deployment.requote terms staged = .ok requoted ↔
      match staged.redeem with
      | .relay gasDropoff _ maxFee =>
        ∃ fee, terms.relayerFee deployment.settings.gasOverheads gasDropoff staged.outputToken =
            .ok fee ∧
          fee.val ≤ maxFee.val ∧ fee.val < staged.custodyAmount.val ∧
          requoted = { staged with redeem := .relay gasDropoff (feeAmount fee) maxFee }
      | _ => requoted = staged := by
  unfold requote
  cases staged.redeem with
  | direct => simp [eq_comm]
  | payload body => simp [eq_comm]
  | relay gasDropoff quoted maxFee =>
    simp only [bind_eq_ok_iff, require_eq_ok_iff, pure_eq_ok_iff, exists_const]
    simp only [@eq_comm _ requoted]

theorem orderFor_eq_ok_iff {payer refundToken : Address} {id : StagedId} {order : MarketOrder} :
    deployment.orderFor payer refundToken id = .ok order ↔
      ∃ staged peer requoted message, deployment.stagedOutbound.get? id = some staged ∧
        staged.preparedBy = payer ∧ staged.refundToken = refundToken ∧
        deployment.peers.get? staged.targetChain = some peer ∧
        deployment.requote peer.terms staged = .ok requoted ∧
        requoted.encodeMessage = .ok message ∧
        order = ⟨staged.custodyAmount, staged.targetChain, peer.address, message,
          staged.refundToken⟩ := by
  unfold orderFor
  simp only [bind_eq_ok_iff, requireStagedOutbound_eq_ok_iff, require_eq_ok_iff,
    requirePeer_eq_ok_iff, pure_eq_ok_iff]
  constructor
  · rintro ⟨staged, held, _, prepared, _, refunded, peer, registered, requoted, quoted, message,
      encoded, rfl⟩
    exact ⟨staged, peer, requoted, message, held, prepared, refunded, registered, quoted, encoded,
      rfl⟩
  · rintro ⟨staged, peer, requoted, message, held, prepared, refunded, registered, quoted, encoded,
      rfl⟩
    exact ⟨staged, held, (), prepared, (), refunded, peer, registered, requoted, quoted, message,
      encoded, rfl⟩

end

variable {deployment : Deployment MemoryRouter} {id : FillId} {received : PeerFill}

/-- A fill is read if the router holds it, its message is well formed, and the registered peer on
its chain sent it. -/
theorem readFill_eq_ok_iff :
    deployment.readFill id = .ok received ↔
      deployment.router.fills.get? id = some received.fill ∧
        SwapMessage.decode received.fill.redeemerMessage = .ok received.message ∧
        deployment.peers.get? received.fill.sourceChain = some received.peer ∧
        received.peer.address = received.fill.orderSender := by
  obtain ⟨fill, peer, message⟩ := received
  unfold readFill
  rw [MemoryRouter.tokenRouter_fill?]
  cases deployment.router.fills.get? id with
  | none => simp
  | some found =>
    cases decoded : SwapMessage.decode found.redeemerMessage with
    | error fault =>
      simp only [decoded, reduceCtorEq, Option.some.injEq, false_iff, not_and]
      rintro rfl
      simp [decoded]
    | ok read =>
      cases registered : deployment.peers.get? found.sourceChain with
      | none =>
        simp only [decoded, registered, reduceCtorEq, Option.some.injEq, false_iff, not_and]
        rintro rfl
        simp [registered]
      | some known =>
        simp only [decoded, registered, bind_eq_ok_iff, require_eq_ok_iff, pure_eq_ok_iff,
          PeerFill.mk.injEq, Option.some.injEq]
        constructor
        · rintro ⟨_, sent, rfl, rfl, rfl⟩
          exact ⟨rfl, decoded, registered, sent⟩
        · rintro ⟨rfl, read', known', sent⟩
          cases decoded.symm.trans read'
          cases registered.symm.trans known'
          exact ⟨(), sent, rfl, rfl, rfl⟩

/-- A relay is payable if it goes to the recipient, no swap is due any more, and the fee is within
the fill unless the recipient collects it. -/
theorem payableRelay_eq_ok_iff {payer recipient : Address} {now : Int64}
    {relay : Address × GasDropoff × Word 6} :
    deployment.payableRelay payer recipient id now = .ok relay ↔
      ∃ received custodian, deployment.readFill id = .ok received ∧
        received.relayTo recipient = .ok relay.2 ∧ received.requirePayable now = .ok () ∧
        (payer = recipient ∨ relay.2.2.val ≤ received.fill.amount.val) ∧
        deployment.custodian = some custodian ∧ custodian.feeRecipient = relay.1 := by
  obtain ⟨feeRecipient, gasDropoff, fee⟩ := relay
  unfold payableRelay
  simp only [bind_eq_ok_iff, require_eq_ok_iff, requireCustodian_eq_ok_iff, pure_eq_ok_iff,
    Prod.mk.injEq]
  constructor
  · rintro ⟨received, read, ⟨_, _⟩, relayed, _, payable, _, covered, custodian, charged, rfl, rfl,
      rfl⟩
    exact ⟨received, custodian, read, relayed, payable, covered, charged, rfl⟩
  · rintro ⟨received, custodian, read, relayed, payable, covered, charged, rfl⟩
    exact ⟨received, read, (gasDropoff, fee), relayed, (), payable, (), covered, custodian, charged,
      rfl, rfl, rfl⟩

theorem unstagedPayload_eq_ok_iff {content : PeerFill × Address × Bytes} :
    deployment.unstagedPayload id = .ok content ↔
      deployment.readFill id = .ok content.1 ∧ content.1.payload = .ok content.2 ∧
        deployment.stagedInbound.get? id = none := by
  obtain ⟨received, sender, body⟩ := content
  unfold unstagedPayload
  simp only [bind_eq_ok_iff, require_eq_ok_iff, pure_eq_ok_iff, Prod.mk.injEq,
    Option.isNone_iff_eq_none]
  constructor
  · rintro ⟨read, found, ⟨_, _⟩, taken, _, vacant, rfl, rfl, rfl⟩
    exact ⟨found, taken, vacant⟩
  · rintro ⟨found, taken, vacant⟩
    exact ⟨received, found, (sender, body), taken, (), vacant, rfl, rfl, rfl⟩

end Deployment
end SwapRelay
