import SwapRelay.Proofs.Histories
import SwapRelay.Proofs.Tables

/-!
# Invariants

What holds of every deployment that a run leads to from a fresh one: before somebody is in charge
nothing is registered, staged or ordered, and the numbers given to staged transfers and to orders
lie below the next ones.
-/

namespace SwapRelay

namespace Deployment

/-- No peer is registered, nothing is staged, and the router has no orders. -/
structure Untouched (deployment : Deployment MemoryRouter) : Prop where
  peers_eq : deployment.peers = .empty
  stagedOutbound_eq : deployment.stagedOutbound = .empty
  stagedInbound_eq : deployment.stagedInbound = .empty
  orders_eq : deployment.router.orders = .empty

section Untouched

variable {before after deployment : Deployment MemoryRouter}

theorem Untouched.peer_absent (untouched : before.Untouched) {chain : ChainId} {peer : Peer} :
    before.peers.get? chain ≠ some peer := by
  rw [untouched.peers_eq]
  nofun

theorem Untouched.staged_absent (untouched : before.Untouched) {id : StagedId}
    {staged : StagedOutbound} : before.stagedOutbound.get? id ≠ some staged := by
  rw [untouched.stagedOutbound_eq]
  nofun

theorem Untouched.payload_absent (untouched : before.Untouched) {id : FillId}
    {staged : StagedInbound} : before.stagedInbound.get? id ≠ some staged := by
  rw [untouched.stagedInbound_eq]
  nofun

theorem Untouched.fill_unread (untouched : before.Untouched) {id : FillId} {received : PeerFill} :
    before.readFill id ≠ .ok received := by
  intro read
  exact untouched.peer_absent (readFill_eq_ok_iff.mp read).2.2.1

/-- Where nothing is registered or staged, only an installation succeeds. -/
theorem Effect.untouched {operation : Operation} {outcome : Outcome}
    (effect : before.Effect operation outcome after)
    (kept : before.custodian = none → before.Untouched) (uncharged : after.custodian = none) :
    after.Untouched := by
  cases effect with
  | appointed _ administrative custodian => cases uncharged
  | registered _ administrative custodian charged peers => cases charged.symm.trans uncharged
  | staged request record next accepted follows =>
    obtain ⟨-, -, peer, registered, -⟩ := stagedRecord_eq_ok_iff.mp accepted
    exact absurd registered (kept uncharged).peer_absent
  | closed id record held => exact absurd held (kept uncharged).staged_absent
  | initiated payer refundToken id order next ordered follows =>
    obtain ⟨record, peer, requoted, message, held, -⟩ := orderFor_eq_ok_iff.mp ordered
    exact absurd held (kept uncharged).staged_absent
  | paidDirect recipient id received read directed => exact absurd read (kept uncharged).fill_unread
  | paidRelay payer recipient id now received custodian gasDropoff fee payout read relayed
      payable settled => exact absurd read (kept uncharged).fill_unread
  | stagedInbound stagedBy sender body id received read taken vacant =>
    exact absurd read (kept uncharged).fill_unread
  | released dstToken beneficiary id record held =>
    exact absurd held (kept uncharged).payload_absent

theorem Reachable.untouched (reachable : deployment.Reachable)
    (uncharged : deployment.custodian = none) : deployment.Untouched := by
  refine reachable.invariant (P := fun deployment => deployment.custodian = none →
    deployment.Untouched) (fun settings _ => ⟨rfl, rfl, rfl, rfl⟩) ?_ uncharged
  intro before event outcome? after happens kept
  cases happens with
  | delivered id fill =>
    intro uncharged
    obtain ⟨peers, outbound, inbound, orders⟩ := kept uncharged
    exact ⟨peers, outbound, inbound, orders⟩
  | refused operation => exact kept
  | accepted operation outcome after effect => exact effect.untouched kept

theorem Reachable.custodian_of_peer {chain : ChainId} {peer : Peer}
    (reachable : deployment.Reachable) (registered : deployment.peers.get? chain = some peer) :
    ∃ custodian, deployment.custodian = some custodian := by
  cases charged : deployment.custodian with
  | none => exact absurd registered (reachable.untouched charged).peer_absent
  | some custodian => exact ⟨custodian, rfl⟩

end Untouched

/-- Numbers are given out in order: those in use lie below the next ones. -/
structure Numbered (deployment : Deployment MemoryRouter) : Prop where
  staged_below : deployment.stagedOutbound.Below deployment.nextStagedOutbound
  orders_below : deployment.router.orders.Below deployment.router.nextOrder

theorem numbered_fresh (settings : Settings) : (fresh settings MemoryRouter.empty).Numbered :=
  ⟨.empty, .empty⟩

theorem Happens.numbered {before after : Deployment MemoryRouter} {event : Event}
    {outcome? : Option Outcome} (happens : before.Happens event outcome? after)
    (numbered : before.Numbered) : after.Numbered := by
  obtain ⟨staged, orders⟩ := numbered
  cases happens with
  | delivered id fill => exact ⟨staged, orders⟩
  | refused operation => exact ⟨staged, orders⟩
  | accepted operation outcome after effect =>
    cases effect with
    | appointed _ administrative custodian => exact ⟨staged, orders⟩
    | registered _ administrative custodian charged peers => exact ⟨staged, orders⟩
    | staged request record next accepted follows => exact ⟨staged.insert record follows, orders⟩
    | closed id record held => exact ⟨staged.erase id, orders⟩
    | initiated payer refundToken id order next ordered follows =>
      exact ⟨staged.erase id, orders.insert order follows⟩
    | paidDirect recipient id received read directed => exact ⟨staged, orders⟩
    | paidRelay payer recipient id now received custodian gasDropoff fee payout read relayed
        payable settled => exact ⟨staged, orders⟩
    | stagedInbound stagedBy sender body id received read taken vacant => exact ⟨staged, orders⟩
    | released dstToken beneficiary id record held => exact ⟨staged, orders⟩

theorem Reachable.numbered {deployment : Deployment MemoryRouter}
    (reachable : deployment.Reachable) : deployment.Numbered :=
  reachable.invariant numbered_fresh fun _ _ _ _ happens => happens.numbered

end Deployment
end SwapRelay
