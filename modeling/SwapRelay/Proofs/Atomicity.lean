import SwapRelay.Proofs.Effects

/-!
# All or nothing

Over the in-memory router every operation that is refused leaves the deployment as it was. All
operations but one check everything before their first change; a call of the router may come in
between, since this router keeps still when it refuses. The exception is the payment of a relay, which
compares its fee once more with the amount that the router hands over; the router hands over what it
announced, so this second comparison never fails.
-/

namespace SwapRelay.Deployment

section

variable {ρ : Type} {deployment : Deployment ρ}

theorem keptOnRefusal_install (owner assistant feeUpdater feeRecipient : Address) :
    deployment.KeptOnRefusal (install owner assistant feeUpdater feeRecipient) := by
  refine .get (.check fun _ _ => .check fun _ _ => .check fun _ _ => ?_)
  refine .check fun _ _ => .check fun _ _ => ?_
  exact .of_perform_eq_ok rfl

theorem keptOnRefusal_submitOwnershipTransfer (signer newOwner : Address) :
    deployment.KeptOnRefusal (submitOwnershipTransfer signer newOwner) := by
  refine .get (.check fun custodian _ => .check fun _ _ => ?_)
  refine .check fun _ _ => .check fun _ _ => ?_
  exact .of_perform_eq_ok rfl

theorem keptOnRefusal_confirmOwnershipTransfer (signer : Address) :
    deployment.KeptOnRefusal (confirmOwnershipTransfer signer) := by
  refine .get (.check fun custodian _ => .check fun _ _ => ?_)
  exact .of_perform_eq_ok rfl

theorem keptOnRefusal_cancelOwnershipTransfer (signer : Address) :
    deployment.KeptOnRefusal (cancelOwnershipTransfer signer) := by
  refine .get (.check fun custodian _ => .check fun _ _ => ?_)
  exact .of_perform_eq_ok rfl

theorem keptOnRefusal_updateAssistant (signer assistant : Address) :
    deployment.KeptOnRefusal (updateAssistant signer assistant) := by
  refine .get (.check fun custodian _ => .check fun _ _ => .check fun _ _ => ?_)
  exact .of_perform_eq_ok rfl

theorem keptOnRefusal_updateFeeUpdater (signer feeUpdater : Address) :
    deployment.KeptOnRefusal (updateFeeUpdater signer feeUpdater) := by
  refine .get (.check fun custodian _ => .check fun _ _ => .check fun _ _ => ?_)
  exact .of_perform_eq_ok rfl

theorem keptOnRefusal_updateFeeRecipient (signer feeRecipient : Address) :
    deployment.KeptOnRefusal (updateFeeRecipient signer feeRecipient) := by
  refine .get (.check fun custodian _ => .check fun _ _ => .check fun _ _ => ?_)
  exact .of_perform_eq_ok rfl

theorem keptOnRefusal_addPeer (signer : Address) (chain : ChainId) (address : Address)
    (terms : RelayTerms) : deployment.KeptOnRefusal (addPeer signer chain address terms) := by
  refine .get (.check fun custodian _ => .check fun _ _ => .check fun _ _ => ?_)
  refine .check fun _ _ => .check fun _ _ => .check fun _ _ => ?_
  exact .of_perform_eq_ok rfl

theorem keptOnRefusal_updatePeer (signer : Address) (chain : ChainId) (address : Address)
    (terms : RelayTerms) : deployment.KeptOnRefusal (updatePeer signer chain address terms) := by
  refine .get (.check fun custodian _ => .check fun _ _ => .check fun _ _ => ?_)
  refine .check fun peer _ => .check fun _ _ => ?_
  exact .of_perform_eq_ok rfl

theorem keptOnRefusal_updateTerms (signer : Address) (chain : ChainId) (terms : RelayTerms) :
    deployment.KeptOnRefusal (updateTerms signer chain terms) := by
  refine .get (.check fun custodian _ => .check fun _ _ => .check fun _ _ => ?_)
  refine .check fun peer _ => ?_
  exact .of_perform_eq_ok rfl

/-- The changes of a batch are staged beside the peers, which are written when all is checked. -/
theorem keptOnRefusal_applyFeeUpdates (signer : Address) (changes : List ChainFeeUpdate) :
    deployment.KeptOnRefusal (applyFeeUpdates signer changes) := by
  refine .get (.check fun custodian _ => .check fun _ _ => .check fun staged _ => ?_)
  exact .of_perform_eq_ok rfl

theorem keptOnRefusal_executeGovernance (signer : Address) (commands : List GovernanceCommand) :
    deployment.KeptOnRefusal (executeGovernance signer commands) := by
  refine .get (.check fun custodian _ => .check fun _ _ => .check fun staged _ => ?_)
  exact .of_perform_eq_ok rfl

theorem keptOnRefusal_stageOutbound (request : StagingRequest) :
    deployment.KeptOnRefusal (stageOutbound request) := by
  refine .get (.check fun record _ => .check fun next _ => ?_)
  exact .of_perform_eq_ok rfl

theorem keptOnRefusal_closeStagedOutbound (sender : Address) (id : StagedId) :
    deployment.KeptOnRefusal (closeStagedOutbound sender id) := by
  refine .get (.check fun staged _ => .check fun _ _ => ?_)
  exact .of_perform_eq_ok rfl

theorem keptOnRefusal_releaseInbound (recipient dstToken beneficiary : Address) (id : FillId) :
    deployment.KeptOnRefusal (releaseInbound recipient dstToken beneficiary id) := by
  refine .get (.check fun staged _ => .check fun _ _ => ?_)
  exact .of_perform_eq_ok rfl

variable [TokenRouter ρ]

theorem keptOnRefusal_of_isAdministrative {operation : Operation}
    (administrative : operation.IsAdministrative) :
    deployment.KeptOnRefusal (operation.action : Action ρ Outcome) := by
  cases operation with
  | install owner assistant feeUpdater feeRecipient =>
    exact (keptOnRefusal_install owner assistant feeUpdater feeRecipient).map _
  | submitOwnershipTransfer signer newOwner =>
    exact (keptOnRefusal_submitOwnershipTransfer signer newOwner).map _
  | confirmOwnershipTransfer signer => exact (keptOnRefusal_confirmOwnershipTransfer signer).map _
  | cancelOwnershipTransfer signer => exact (keptOnRefusal_cancelOwnershipTransfer signer).map _
  | updateAssistant signer assistant => exact (keptOnRefusal_updateAssistant signer assistant).map _
  | updateFeeUpdater signer feeUpdater =>
    exact (keptOnRefusal_updateFeeUpdater signer feeUpdater).map _
  | updateFeeRecipient signer feeRecipient =>
    exact (keptOnRefusal_updateFeeRecipient signer feeRecipient).map _
  | addPeer signer chain address terms =>
    exact (keptOnRefusal_addPeer signer chain address terms).map _
  | updatePeer signer chain address terms =>
    exact (keptOnRefusal_updatePeer signer chain address terms).map _
  | updateTerms signer chain terms => exact (keptOnRefusal_updateTerms signer chain terms).map _
  | applyFeeUpdates signer changes => exact (keptOnRefusal_applyFeeUpdates signer changes).map _
  | executeGovernance signer commands =>
    exact (keptOnRefusal_executeGovernance signer commands).map _
  | _ => exact administrative.elim

end

section

variable {deployment : Deployment MemoryRouter}

theorem keptOnRefusal_prepareOrder (order : MarketOrder) :
    deployment.KeptOnRefusal (prepareOrder order) :=
  .onRouter fun _ _ => MemoryRouter.prepareMarketOrder_kept

theorem keptOnRefusal_consumeFill (id : FillId) : deployment.KeptOnRefusal (consumeFill id) :=
  .onRouter fun _ _ => MemoryRouter.consumeFill_kept

/-- The staged transfer is dropped only when its order is filed. -/
theorem keptOnRefusal_initiateTransfer (payer refundToken : Address) (id : StagedId) :
    deployment.KeptOnRefusal (initiateTransfer payer refundToken id) := by
  refine .get (.check fun order _ => ?_)
  exact (keptOnRefusal_prepareOrder order).bind fun number between _ => ⟨_, _, rfl⟩

theorem keptOnRefusal_completeDirect (recipient : Address) (id : FillId) :
    deployment.KeptOnRefusal (completeDirect recipient id) := by
  refine .get (.check fun received _ => .check fun _ _ => ?_)
  exact (keptOnRefusal_consumeFill id).map _

theorem keptOnRefusal_completePayload (stagedBy : Address) (id : FillId) :
    deployment.KeptOnRefusal (completePayload stagedBy id) := by
  refine .get (.check fun content _ => ?_)
  exact (keptOnRefusal_consumeFill id).bind fun amount between _ => ⟨_, _, rfl⟩

/-- A relay is refused before its fill is handed over or not at all. -/
theorem keptOnRefusal_completeRelay (payer recipient : Address) (id : FillId) (now : Int64) :
    deployment.KeptOnRefusal (completeRelay payer recipient id now) := by
  cases payable : deployment.payableRelay payer recipient id now with
  | error fault => exact .get (.check fun relay accepted => nomatch payable.symm.trans accepted)
  | ok relay =>
    obtain ⟨received, payout, -, -, paid⟩ := perform_completeRelay_of_payableRelay payable
    exact .of_perform_eq_ok paid

theorem keptOnRefusal_action (operation : Operation) :
    deployment.KeptOnRefusal operation.action := by
  cases operation with
  | stageOutbound request => exact (keptOnRefusal_stageOutbound request).map _
  | closeStagedOutbound sender id => exact (keptOnRefusal_closeStagedOutbound sender id).map _
  | initiateTransfer payer refundToken id =>
    exact (keptOnRefusal_initiateTransfer payer refundToken id).map _
  | completeDirect recipient id => exact (keptOnRefusal_completeDirect recipient id).map _
  | completeRelay payer recipient id now =>
    exact (keptOnRefusal_completeRelay payer recipient id now).map _
  | completePayload stagedBy id => exact (keptOnRefusal_completePayload stagedBy id).map _
  | releaseInbound recipient dstToken beneficiary id =>
    exact (keptOnRefusal_releaseInbound recipient dstToken beneficiary id).map _
  | _ => exact keptOnRefusal_of_isAdministrative trivial

end

/-- Nothing of the deployment or of its router changes when an operation is refused. -/
theorem refused_operation_changes_nothing (deployment : Deployment MemoryRouter)
    (operation : Operation) {fault : SwapError}
    (refused : (deployment.step operation).1 = .error fault) :
    (deployment.step operation).2 = deployment :=
  keptOnRefusal_action operation fault refused

/-- A deployment with a peer on chain 2, and a fill of 3 whose relay costs 5. -/
def underpaid : Deployment MemoryRouter :=
  (fresh (.standard 1) .empty).run
    [ .asked (.install 11 12 13 14),
      .asked (.addPeer 11 2 21 ⟨1, 1, .zero, 0, none, Settings.standardTimeLimit⟩),
      .delivered 9 ⟨2, 21,
        1 :: List.replicate 31 0 ++ [7] ++ [2, 0, 0, 0, 0, 0, 0, 0, 0, 0, 5] ++ [0],
        .fastFill, 0, 3⟩ ]

theorem underpaid_relay_changes_nothing :
    (underpaid.step (.completeRelay 8 7 9 0)).1 = .error .invalidRelayerFee ∧
      (underpaid.step (.completeRelay 8 7 9 0)).2 = underpaid :=
  ⟨rfl, refused_operation_changes_nothing underpaid (.completeRelay 8 7 9 0) rfl⟩

end SwapRelay.Deployment
