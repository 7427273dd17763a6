import SwapRelay.Proofs.FeeBatches
import SwapRelay.Proofs.GovernanceBatches
import SwapRelay.Proofs.Invariants

/-!
# Replayed batches

A batch that has been accepted changes nothing when the same signer hands it in again. The second
time every check meets what the first time has left: fee updates start from terms that have their
last values already, and a command finds the address and the time limits of its chain in the
registry, where it found them in the batch before. For the commands it matters that a staged peer
keeps both to the end of the batch (`Endures`).
-/

namespace SwapRelay

/-- Every staged peer is still staged later, under the same address and time limits. -/
def Endures (staged later : Table 2 Peer) : Prop :=
  ∀ chain peer, staged.get? chain = some peer → ∃ next, later.get? chain = some next ∧
    next.address = peer.address ∧ next.terms.swapTimeLimit = peer.terms.swapTimeLimit

namespace Endures

variable {staged later last : Table 2 Peer}

theorem refl (staged : Table 2 Peer) : Endures staged staged :=
  fun _ peer found => ⟨peer, found, rfl, rfl⟩

theorem trans (first : Endures staged later) (second : Endures later last) :
    Endures staged last := by
  intro chain peer found
  obtain ⟨next, foundNext, address, limits⟩ := first chain peer found
  obtain ⟨final, foundLast, addressLast, limitsLast⟩ := second chain next foundNext
  exact ⟨final, foundLast, addressLast.trans address, limitsLast.trans limits⟩

end Endures

namespace Deployment

variable {ρ : Type} {deployment after : Deployment ρ} {staged next last : Table 2 Peer}
  {signer : Address}

section Governance

variable {command : GovernanceCommand} {commands : List GovernanceCommand}

theorem endures_of_stageCommand (accepted : deployment.stageCommand staged command = .ok next) :
    Endures staged next := by
  obtain ⟨endpoint, fees, limit, -, -, -, limited, -, rfl⟩ := stageCommand_eq_ok_iff.mp accepted
  have limited := timeLimitDuring_eq_ok_iff.mp limited
  intro chain peer found
  rw [Table.get?_insert]
  split
  · rename_i same
    subst same
    rw [found] at limited
    exact ⟨_, rfl, limited.1.symm, limited.2⟩
  · exact ⟨peer, found, rfl, rfl⟩

theorem endures_of_foldlM (agreed : commands.foldlM deployment.stageCommand staged = .ok last) :
    Endures staged last :=
  foldlM_invariant (P := Endures staged)
    (fun _ _ _ accepted endured => endured.trans (endures_of_stageCommand accepted)) agreed
    (.refl staged)

/-- The registry that the batch leaves says of the chain of a command what the command has met. -/
theorem stageCommand_withStaged (accepted : deployment.stageCommand staged command = .ok next)
    (endures : Endures next last) :
    (deployment.withStaged last).stageCommand staged command = .ok next := by
  obtain ⟨endpoint, fees, limit, rfl, foreign, address, limited, acceptable, rfl⟩ :=
    stageCommand_eq_ok_iff.mp accepted
  have again : (deployment.withStaged last).timeLimitDuring staged endpoint = .ok limit := by
    cases earlier : staged.get? endpoint.chain with
    | some peer =>
      rw [timeLimitDuring_eq_ok_iff, earlier] at limited ⊢
      exact limited
    | none =>
      have written := Table.get?_insert_self staged endpoint.chain
        ⟨endpoint.chain, endpoint.address, .ofFeeRecord fees limit⟩
      obtain ⟨peer, found, pinned, limits⟩ := endures endpoint.chain _ written
      rw [timeLimitDuring_eq_ok_iff, earlier, get?_withStaged, found]
      exact ⟨pinned, limits.symm⟩
  exact stageCommand_eq_ok_iff.mpr
    ⟨endpoint, fees, limit, rfl, foreign, address, again, acceptable, rfl⟩

theorem foldlM_stageCommand_withStaged
    (agreed : commands.foldlM deployment.stageCommand staged = .ok last) :
    commands.foldlM (deployment.withStaged last).stageCommand staged = .ok last := by
  induction commands generalizing staged with
  | nil => exact agreed
  | cons command later ih =>
    rw [List.foldlM_cons] at agreed ⊢
    obtain ⟨next, accepted, agreed⟩ := bind_eq_ok_iff.mp agreed
    rw [stageCommand_withStaged accepted (endures_of_foldlM agreed)]
    exact ih agreed

theorem withStaged_again : (deployment.withStaged staged).withStaged staged =
    deployment.withStaged staged := by
  refine withStaged_congr (fun _ => rfl) fun chain => ?_
  rw [get?_withStaged, get?_withStaged, ← Option.or_assoc, Option.or_self]

theorem perform_executeGovernance_again
    (accepted : deployment.perform (executeGovernance signer commands) = (.ok (), after)) :
    after.perform (executeGovernance signer commands) = (.ok (), after) := by
  obtain ⟨custodian, charged, signed, staged, agreed, rfl⟩ :=
    perform_executeGovernance_eq_ok_iff.mp accepted
  have again : (deployment.withStaged staged).stageCommands commands = .ok staged :=
    foldlM_stageCommand_withStaged agreed
  refine perform_executeGovernance_eq_ok_iff.mpr ⟨custodian, charged, signed, staged, again, ?_⟩
  exact withStaged_again.symm

end Governance

theorem perform_applyFeeUpdates_again {changes : List ChainFeeUpdate}
    (accepted : deployment.perform (applyFeeUpdates signer changes) = (.ok (), after)) :
    after.perform (applyFeeUpdates signer changes) = (.ok (), after) := by
  obtain ⟨signed, same, revised⟩ := perform_applyFeeUpdates_iff_feeRevision.mp accepted
  exact perform_applyFeeUpdates_iff_feeRevision.mpr
    ⟨signed.of_peers same, rfl, fun chain => (revised chain).again⟩

/-- A batch that is accepted is accepted once more, and the second time it changes nothing. This
holds for batches of fee updates and for batches of governance, whether they name chains several
times or register them. -/
theorem replayed_batches_harmless (deployment : Deployment ρ) (signer : Address) :
    (∀ changes after,
      deployment.perform (applyFeeUpdates signer changes) = (.ok (), after) →
        after.perform (applyFeeUpdates signer changes) = (.ok (), after)) ∧
    ∀ commands after,
      deployment.perform (executeGovernance signer commands) = (.ok (), after) →
        after.perform (executeGovernance signer commands) = (.ok (), after) :=
  ⟨fun _ _ accepted => perform_applyFeeUpdates_again accepted,
    fun _ _ accepted => perform_executeGovernance_again accepted⟩

theorem registeringBatch_replayed :
    let start := (fresh (.standard 1) MemoryRouter.empty).course registryCourse
    let registered := (start.perform (executeGovernance 11 registeringBatch)).2
    let priced := (registered.perform (applyFeeUpdates 11 interleavedUpdates)).2
    registered ≠ start ∧ priced ≠ registered ∧
      registered.perform (executeGovernance 11 registeringBatch) = (.ok (), registered) ∧
      priced.perform (applyFeeUpdates 11 interleavedUpdates) = (.ok (), priced) := by
  intro start registered priced
  have governed : start.perform (executeGovernance 11 registeringBatch) = (.ok (), registered) :=
    Prod.ext rfl rfl
  have updated : registered.perform (applyFeeUpdates 11 interleavedUpdates) = (.ok (), priced) :=
    Prod.ext rfl rfl
  refine ⟨?_, ?_, (replayed_batches_harmless start 11).2 _ _ governed,
    (replayed_batches_harmless registered 11).1 _ _ updated⟩
  · intro same
    cases congrArg (fun deployment => deployment.peers.get? 4) same
  · intro same
    cases congrArg (fun deployment => deployment.peers.get? 2) same

end Deployment
end SwapRelay
