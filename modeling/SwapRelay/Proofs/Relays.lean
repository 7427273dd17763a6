import SwapRelay.Proofs.Invariants

/-!
# Relays

Exactly when a fill is paid out as a relay, and what its payout is. Nothing but the fill, its
message and the peer on its chain decides, apart from the time, which can only be too early; so a
relay that can be paid out stays so, with the same payout.
-/

namespace SwapRelay

theorem SwapTimeLimit.Passed.later {limit : SwapTimeLimit} {early late : Int} {kind : FillKind}
    (passed : limit.Passed early kind) (le : early ≤ late) : limit.Passed late kind := by
  cases kind with
  | unset => exact passed
  | cctpDeposit => exact Int.le_trans passed le
  | fastFill => exact Int.le_trans passed le

theorem PeerFill.requirePayable_later {received : PeerFill} {now later : Int64}
    (payable : received.requirePayable now = .ok ()) (le : now.toInt ≤ later.toInt) :
    received.requirePayable later = .ok () := by
  rw [requirePayable_eq_ok_iff] at payable ⊢
  apply payable.imp_right
  intro passed
  exact passed.later (Int.sub_le_sub_right le _)

namespace Deployment

variable {deployment : Deployment MemoryRouter} {payer recipient : Address} {id : FillId}
  {now later : Int64} {fill : Fill} {peer : Peer} {gasDropoff : GasDropoff} {fee : Word 6}
  {token : OutputToken}

/-- The router holds a fill that the registered peer on its chain has sent, whose message asks for a
relay to the recipient. No swap is wanted or the time for it has passed, and the fee is within the
amount unless the recipient pays itself. -/
structure RelayDue (deployment : Deployment MemoryRouter) (payer recipient : Address) (id : FillId)
    (now : Int64) (fill : Fill) (peer : Peer) (gasDropoff : GasDropoff) (fee : Word 6)
    (token : OutputToken) : Prop where
  held : deployment.router.fills.get? id = some fill
  decoded : SwapMessage.decode fill.redeemerMessage =
    .ok ⟨recipient, .relay gasDropoff fee, token⟩
  registered : deployment.peers.get? fill.sourceChain = some peer
  sent : peer.address = fill.orderSender
  timely : token.swap? = none ∨
    peer.terms.swapTimeLimit.Passed (now.toInt - fill.timestamp.toInt) fill.kind
  covered : payer = recipient ∨ fee.val ≤ fill.amount.val

theorem relayDue_of_completeRelay {payout : RelayPayout} {after : Deployment MemoryRouter}
    (performed : deployment.perform (completeRelay payer recipient id now) = (.ok payout, after)) :
    ∃ fill peer gasDropoff fee token,
      deployment.RelayDue payer recipient id now fill peer gasDropoff fee token := by
  obtain ⟨⟨fill, peer, addressee, mode, token⟩, custodian, gasDropoff, fee, read, relayed, payable,
    covered, -⟩ := perform_completeRelay_eq_ok_iff.mp performed
  obtain ⟨held, decoded, registered, sent⟩ := readFill_eq_ok_iff.mp read
  obtain ⟨rfl, rfl⟩ := PeerFill.relayTo_eq_ok_iff.mp relayed
  have timely := PeerFill.requirePayable_eq_ok_iff.mp payable
  exact ⟨fill, peer, gasDropoff, fee, token, held, decoded, registered, sent, timely, covered⟩

theorem RelayDue.completeRelay
    (due : deployment.RelayDue payer recipient id now fill peer gasDropoff fee token)
    (reachable : deployment.Reachable) :
    ∃ custodian payout, deployment.custodian = some custodian ∧
      payout.Settles payer recipient custodian.feeRecipient fill.amount gasDropoff fee ∧
      deployment.step (.completeRelay payer recipient id now) =
        (.ok (.paidRelay payout), deployment.dropFill id) := by
  let received : PeerFill := ⟨fill, peer, ⟨recipient, .relay gasDropoff fee, token⟩⟩
  have read : deployment.readFill id = .ok received :=
    readFill_eq_ok_iff.mpr ⟨due.held, due.decoded, due.registered, due.sent⟩
  have relayed : received.relayTo recipient = .ok (gasDropoff, fee) :=
    PeerFill.relayTo_eq_ok_iff.mpr ⟨rfl, rfl⟩
  have payable : received.requirePayable now = .ok () :=
    PeerFill.requirePayable_eq_ok_iff.mpr due.timely
  obtain ⟨custodian, charged⟩ := reachable.custodian_of_peer due.registered
  have accepted : deployment.payableRelay payer recipient id now =
      .ok (custodian.feeRecipient, gasDropoff, fee) :=
    payableRelay_eq_ok_iff.mpr
      ⟨received, custodian, read, relayed, payable, due.covered, charged, rfl⟩
  obtain ⟨found, payout, again, settled, paid⟩ := perform_completeRelay_of_payableRelay accepted
  cases read.symm.trans again
  exact ⟨custodian, payout, charged, settled, perform_map_eq_ok_iff.mpr ⟨payout, paid, rfl⟩⟩

/-- Time only brings the limit closer, and nothing else is read off the clock. -/
theorem completeRelay_later {payout : RelayPayout} {after : Deployment MemoryRouter}
    (performed : deployment.perform (completeRelay payer recipient id now) = (.ok payout, after))
    (le : now.toInt ≤ later.toInt) :
    deployment.perform (completeRelay payer recipient id later) = (.ok payout, after) := by
  rw [perform_completeRelay_eq_ok_iff] at performed ⊢
  obtain ⟨received, custodian, gasDropoff, fee, read, relayed, payable, rest⟩ := performed
  have payable := PeerFill.requirePayable_later payable le
  exact ⟨received, custodian, gasDropoff, fee, read, relayed, payable, rest⟩

theorem exists_completeRelay_of_step {outcome : Outcome}
    (accepted : (deployment.step (.completeRelay payer recipient id now)).1 = .ok outcome) :
    ∃ payout after, deployment.perform (completeRelay payer recipient id now) =
        (.ok payout, after) ∧
      deployment.step (.completeRelay payer recipient id now) =
        (.ok (.paidRelay payout), after) := by
  have step : deployment.step (.completeRelay payer recipient id now) =
      (.ok outcome, (deployment.step (.completeRelay payer recipient id now)).2) :=
    Prod.ext accepted rfl
  obtain ⟨payout, performed, rfl⟩ := perform_map_eq_ok_iff.mp step
  exact ⟨payout, _, performed, step⟩

/-- The completion of a relay succeeds exactly when the relay is due. The amount is then shared
between the recipient and the present fee recipient, and the fill leaves the router; and at every
later time the result is the same. -/
theorem relay_completes_exactly (reachable : deployment.Reachable) (payer recipient : Address)
    (id : FillId) (now : Int64) :
    let result := deployment.step (.completeRelay payer recipient id now)
    ((∃ outcome, result.1 = .ok outcome) ↔
      ∃ fill peer gasDropoff fee token,
        deployment.RelayDue payer recipient id now fill peer gasDropoff fee token) ∧
    (∀ fill peer gasDropoff fee token,
      deployment.RelayDue payer recipient id now fill peer gasDropoff fee token →
      ∃ custodian payout, deployment.custodian = some custodian ∧
        payout.Settles payer recipient custodian.feeRecipient fill.amount gasDropoff fee ∧
        result = (.ok (.paidRelay payout), deployment.dropFill id)) ∧
    ∀ later outcome, now.toInt ≤ later.toInt → result.1 = .ok outcome →
      deployment.step (.completeRelay payer recipient id later) = result := by
  intro result
  refine ⟨⟨?_, ?_⟩, ?_, ?_⟩
  · rintro ⟨outcome, accepted⟩
    obtain ⟨payout, after, performed, -⟩ := exists_completeRelay_of_step accepted
    exact relayDue_of_completeRelay performed
  · rintro ⟨fill, peer, gasDropoff, fee, token, due⟩
    obtain ⟨custodian, payout, -, -, paid⟩ := due.completeRelay reachable
    exact ⟨.paidRelay payout, congrArg Prod.fst paid⟩
  · intro fill peer gasDropoff fee token due
    exact due.completeRelay reachable
  · intro later outcome le accepted
    obtain ⟨payout, after, performed, paid⟩ := exists_completeRelay_of_step accepted
    have again := completeRelay_later performed le
    exact (perform_map_eq_ok_iff.mpr ⟨payout, again, rfl⟩).trans paid.symm

/-- A fast fill, prepared at 100, for a relay to account 7 with a drop-off of 3, a fee of 5 and a
swap into the native token. -/
def swapFill : Fill where
  sourceChain := 2
  orderSender := 22
  redeemerMessage := 1 :: List.replicate 31 0 ++ [7] ++ [2, 0, 0, 0, 3, 0, 0, 0, 0, 0, 5] ++
    (1 :: List.replicate 20 0 ++ [1, 0, 1, 244, 0])
  kind := .fastFill
  timestamp := 100
  amount := 70

def patientPeer : Peer := ⟨2, 22, ⟨5, 1, ⟨10⟩, 0, some ⟨⟨1⟩, 0⟩, ⟨60, 900⟩⟩⟩

def awaitedSwap : Deployment MemoryRouter :=
  (fresh (.standard 1) .empty).run
    [ .asked (.install 11 12 13 14),
      .asked (.addPeer 11 2 22 patientPeer.terms),
      .delivered 9 swapFill ]

theorem relayDue_awaitedSwap :
    awaitedSwap.RelayDue 8 7 9 160 swapFill patientPeer ⟨3⟩ 5
      (.gas ⟨0, 0, .uniswapV3 ⟨500, []⟩⟩) where
  held := rfl
  decoded := rfl
  registered := rfl
  sent := rfl
  timely := by
    right
    change (60 : Int) ≤ 160 - 100
    decide
  covered := .inr (by decide)

/-- Once the 60 seconds are over, account 8 can pay account 7 out for the fee of 5, not before. -/
theorem awaitedSwap_completes_exactly :
    awaitedSwap.Reachable ∧
      awaitedSwap.RelayDue 8 7 9 160 swapFill patientPeer ⟨3⟩ 5
        (.gas ⟨0, 0, .uniswapV3 ⟨500, []⟩⟩) ∧
      (awaitedSwap.step (.completeRelay 8 7 9 159)).1 = .error .swapTimeLimitNotExceeded ∧
      ∃ custodian payout, awaitedSwap.custodian = some custodian ∧
        payout.Settles 8 7 custodian.feeRecipient 70 ⟨3⟩ 5 ∧
        ∀ later : Int64, 160 ≤ later.toInt →
          awaitedSwap.step (.completeRelay 8 7 9 later) =
            (.ok (.paidRelay payout), awaitedSwap.dropFill 9) := by
  have reachable : awaitedSwap.Reachable := ⟨_, _, rfl⟩
  obtain ⟨-, paid, lasting⟩ := relay_completes_exactly reachable 8 7 9 160
  obtain ⟨custodian, payout, charged, settled, result⟩ := paid _ _ _ _ _ relayDue_awaitedSwap
  refine ⟨reachable, relayDue_awaitedSwap, rfl, custodian, payout, charged, settled, ?_⟩
  intro later le
  exact (lasting later _ le (congrArg Prod.fst result)).trans result

end Deployment
end SwapRelay
