import SwapRelay.Proofs.Canonical
import SwapRelay.Proofs.Invariants
import SwapRelay.Proofs.Quotes
import SwapRelay.Proofs.Registry

/-!
# Staged transfers

When a transfer may be staged, and what holds of it from then on. The bounds come from different
places: the amount is not zero, a fee is quoted within six bytes and covered by what is taken into
custody, and an output token that was read can be written. The record is never changed and the peer
of its target chain is never lost, so all of this holds for as long as the transfer is staged.
-/

namespace SwapRelay

/-- The bounds of a staged relay: the quoted fee is at most the greatest that the sender accepts,
which fits six bytes, and it leaves something to the recipient; and the swap can be relayed. -/
structure RelayBounds (custody quoted maxFee : Word 8) (token : OutputToken) : Prop where
  le_maxFee : quoted ≤ maxFee
  maxFee_lt : maxFee.val < 281474976710656
  lt_custody : quoted < custody
  venue_ne : ∀ swap, token.swap? = some swap → ∀ program, swap.venue ≠ .jupiterV6 program

/-- What holds of a staged transfer by itself. -/
structure StagedOutbound.Sound (staged : StagedOutbound) : Prop where
  custody_pos : 0 < staged.custodyAmount
  recipient_ne : staged.recipient ≠ 0
  token_written : ∃ bytes, Wire.write staged.outputToken = .ok bytes
  payload_le : ∀ body, staged.redeem = .payload body → body.length ≤ 65535
  relay : ∀ gasDropoff quoted maxFee, staged.redeem = .relay gasDropoff quoted maxFee →
    RelayBounds staged.custodyAmount quoted maxFee staged.outputToken

namespace StagingRequest

variable {request : StagingRequest}

theorem exists_written_of_outputToken {token : OutputToken}
    (asked : request.outputToken = .ok token) : ∃ bytes, Wire.write token = .ok bytes := by
  have asked := outputToken_eq_ok_iff.mp asked
  cases given : request.encodedOutputToken with
  | none =>
    rw [given] at asked
    rw [asked]
    exact ⟨[0], rfl⟩
  | some encoded =>
    rw [given] at asked
    exact ⟨encoded, CanonicalWire.write_of_decode asked⟩

theorem lt_of_relayCustody {fee : Word 6} {custody : Word 8} (amount : request.amountIn ≠ 0)
    (taken : request.relayCustody fee = .ok custody) : fee.val < custody.val := by
  have positive : 0 < request.amountIn.val := Nat.pos_of_ne_zero (Fin.val_ne_of_ne amount)
  have taken := relayCustody_eq_ok_iff.mp taken
  split at taken
  · obtain ⟨covered, rfl⟩ := taken
    exact covered
  · omega

end StagingRequest

namespace Deployment

section Records

variable {ρ : Type} {deployment : Deployment ρ} {request : StagingRequest}
  {record : StagedOutbound}

/-- The fee of a record is the one that the peer's terms ask for when it is made. -/
theorem quoted_of_stagedRecord (accepted : deployment.stagedRecord request = .ok record) :
    ∃ peer, deployment.peers.get? record.targetChain = some peer ∧
      ∀ gasDropoff quoted maxFee, record.redeem = .relay gasDropoff quoted maxFee →
        ∃ fee, peer.terms.relayerFee deployment.settings.gasOverheads gasDropoff
            record.outputToken = .ok fee ∧ quoted = feeAmount fee := by
  obtain ⟨-, -, peer, registered, token, -, custody, redeem, taken, rfl⟩ :=
    stagedRecord_eq_ok_iff.mp accepted
  refine ⟨peer, registered, ?_⟩
  rintro gasDropoff quoted maxFee rfl
  have taken := StagingRequest.redeemAt_eq_ok_iff.mp taken
  split at taken
  · cases taken
  · cases taken.2
  · obtain ⟨-, fee, charged, -, _, -, same⟩ := taken
    cases same
    exact ⟨fee, charged, rfl⟩

theorem sound_of_stagedRecord (accepted : deployment.stagedRecord request = .ok record) :
    record.Sound := by
  obtain ⟨amount, recipient, peer, registered, token, asked, custody, redeem, taken, rfl⟩ :=
    stagedRecord_eq_ok_iff.mp accepted
  have written := StagingRequest.exists_written_of_outputToken asked
  have positive : 0 < request.amountIn.val := Nat.pos_of_ne_zero (Fin.val_ne_of_ne amount)
  have taken := StagingRequest.redeemAt_eq_ok_iff.mp taken
  split at taken
  · cases taken
    exact ⟨positive, recipient, written, nofun, nofun⟩
  · obtain ⟨short, same⟩ := taken
    cases same
    refine ⟨positive, recipient, written, ?_, nofun⟩
    rintro _ ⟨⟩
    exact short
  · rename_i gasDropoff maxFee _
    obtain ⟨-, fee, charged, bounded, _, covered, same⟩ := taken
    cases same
    have left := StagingRequest.lt_of_relayCustody amount covered
    have fits : (feeAmount maxFee).val < 281474976710656 := maxFee.isLt
    refine ⟨Nat.lt_of_le_of_lt (Nat.zero_le _) left, recipient, written, nofun, ?_⟩
    rintro _ _ _ ⟨⟩
    exact ⟨bounded, fits, left, fun swap => RelayTerms.venue_ne_of_relayerFee charged⟩

end Records

variable {before after deployment : Deployment MemoryRouter} {id : StagedId}
  {staged : StagedOutbound}

theorem Happens.staged_before_or_now {event : Event} {outcome? : Option Outcome}
    (happens : before.Happens event outcome? after)
    (held : after.stagedOutbound.get? id = some staged) :
    before.stagedOutbound.get? id = some staged ∨
      ∃ request, event = .asked (.stageOutbound request) ∧ outcome? = some (.staged id) ∧
        before.stagedRecord request = .ok staged := by
  cases happens with
  | delivered other fill => exact .inl held
  | refused operation => exact .inl held
  | accepted operation outcome after effect =>
    cases effect with
    | staged request record next accepted follows =>
      rw [Table.get?_insert] at held
      split at held
      · rename_i same
        cases held
        rw [same]
        exact .inr ⟨request, rfl, rfl, accepted⟩
      · exact .inl held
    | closed other record found => exact .inl (Table.get?_eq_some_of_erase held)
    | initiated payer refundToken other order next ordered follows =>
      exact .inl (Table.get?_eq_some_of_erase held)
    | _ => exact .inl held

/-- What is found under a new number has been staged in between. -/
theorem exists_staging_moment {events : List Event}
    (vacant : deployment.stagedOutbound.get? id = none)
    (held : (deployment.run events).stagedOutbound.get? id = some staged) :
    ∃ moment ∈ deployment.history events, moment.outcome? = some (.staged id) := by
  induction events generalizing deployment with
  | nil =>
    rw [show deployment.run [] = deployment from rfl, vacant] at held
    cases held
  | cons event later ih =>
    cases found : (deployment.after event).stagedOutbound.get? id with
    | none =>
      obtain ⟨moment, mem, given⟩ := ih found held
      exact ⟨moment, List.mem_cons_of_mem _ mem, given⟩
    | some record =>
      rcases (deployment.happens event).staged_before_or_now found with earlier | ⟨_, -, given, -⟩
      · rw [vacant] at earlier
        cases earlier
      · exact ⟨⟨deployment, event⟩, List.mem_cons_self, given⟩

def StagesSoundly (deployment : Deployment MemoryRouter) : Prop :=
  ∀ id staged, deployment.stagedOutbound.get? id = some staged →
    staged.Sound ∧ ∃ peer, deployment.peers.get? staged.targetChain = some peer

theorem stagesSoundly_after (valid : before.ValidPeers) (sound : before.StagesSoundly)
    (event : Event) : (before.after event).StagesSoundly := by
  intro id staged held
  rcases (before.happens event).staged_before_or_now held with earlier | ⟨request, -, -, accepted⟩
  · obtain ⟨wellFormed, registered⟩ := sound id staged earlier
    exact ⟨wellFormed, exists_peer_after valid event registered⟩
  · obtain ⟨peer, known, -⟩ := quoted_of_stagedRecord accepted
    exact ⟨sound_of_stagedRecord accepted, exists_peer_after valid event ⟨peer, known⟩⟩

theorem Reachable.stagesSoundly (reachable : deployment.Reachable) : deployment.StagesSoundly := by
  have both : deployment.ValidPeers ∧ deployment.StagesSoundly := by
    refine reachable.induction (P := fun deployment => deployment.ValidPeers ∧
      deployment.StagesSoundly) ?_ ?_
    · intro settings
      exact ⟨fun _ _ => nofun, fun _ _ => nofun⟩
    · intro before event kept
      exact ⟨validPeers_after kept.1 event, stagesSoundly_after kept.1 kept.2 event⟩
  exact both.2

/-- Every transfer that is staged, at whatever point of whatever run, holds an amount for a
recipient on a foreign chain with a peer. Its output token can be written and its payload fits a
message. If it is to be relayed, then the fee quoted for it is within what the sender accepts and
below what is held, and its swap is at a venue that relayers trade at. -/
theorem staged_transfer_sound (reachable : deployment.Reachable)
    (held : deployment.stagedOutbound.get? id = some staged) :
    staged.Sound ∧ (∃ peer, deployment.peers.get? staged.targetChain = some peer) ∧
      staged.targetChain ≠ 0 ∧ staged.targetChain ≠ deployment.settings.chain := by
  obtain ⟨sound, peer, registered⟩ := reachable.stagesSoundly id staged held
  have foreign := (reachable.validPeers staged.targetChain peer registered).foreign
  exact ⟨sound, ⟨peer, registered⟩, foreign⟩

/-- Chain 1, where a relay of 100 into the gas of chain 2 is staged, with its fee of 5 on top. -/
def gasRelayEvents : List Event :=
  [ .asked (.install 11 12 13 14),
    .asked (.addPeer 11 2 22 ⟨5, 1, ⟨10⟩, 0, some ⟨⟨1⟩, 0⟩, Settings.standardTimeLimit⟩),
    .asked (.stageOutbound ⟨5, 6, 4, 100, false, 2, 7, some (.relay ⟨3⟩ 50),
      some (1 :: List.replicate 20 0 ++ [1] ++ [0, 1, 244] ++ [0])⟩) ]

def gasRelay : StagedOutbound :=
  ⟨5, 6, 2, 7, 4, .relay ⟨3⟩ 5 50, .gas ⟨0, 0, .uniswapV3 ⟨500, []⟩⟩, 105⟩

/-- The relay is sound also when relaying has become dearer than its sender accepts. -/
theorem repriced_relay_sound :
    let repriced := (fresh (.standard 1) .empty).run
      (gasRelayEvents ++ [.asked (.applyFeeUpdates 13 [⟨2, .baseFee 60⟩])])
    repriced.Reachable ∧ repriced.stagedOutbound.get? 0 = some gasRelay ∧ gasRelay.Sound ∧
      (∃ peer, repriced.peers.get? 2 = some peer) ∧ (2 : ChainId) ≠ 0 ∧ (2 : ChainId) ≠ 1 := by
  intro repriced
  have reachable : repriced.Reachable := ⟨_, _, rfl⟩
  have held : repriced.stagedOutbound.get? 0 = some gasRelay := rfl
  exact ⟨reachable, held, staged_transfer_sound reachable held⟩

end Deployment
end SwapRelay
