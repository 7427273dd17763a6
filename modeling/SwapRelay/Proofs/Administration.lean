import SwapRelay.Proofs.Action

/-!
# What administration does

For each operation that administers a deployment, exactly when it succeeds and what it leaves
behind. All of them need a custodian but the installation, which makes the first one; only peers and
the custodian change. `Appointment` and `Registration` sum up the ways in which they change, with
the rights of the signer; what administration keeps is studied through them.
-/

namespace SwapRelay

namespace Operation

/-- The operations that move no USDC: they name accounts or change peers. -/
def IsAdministrative : Operation → Prop
  | .stageOutbound _ | .closeStagedOutbound _ _ | .initiateTransfer _ _ _
  | .completeDirect _ _ | .completeRelay _ _ _ _ | .completePayload _ _
  | .releaseInbound _ _ _ _ => False
  | _ => True

/-- The operations that hand out what other chains have sent. -/
def IsInbound : Operation → Prop
  | .completeDirect _ _ | .completeRelay _ _ _ _ | .completePayload _ _ | .releaseInbound _ _ _ _ =>
    True
  | _ => False

/-- The operations that send something to another chain or get ready for it. -/
def IsOutbound : Operation → Prop
  | .stageOutbound _ | .closeStagedOutbound _ _ | .initiateTransfer _ _ _ => True
  | _ => False

theorem IsInbound.not_isAdministrative {operation : Operation} (inbound : operation.IsInbound) :
    ¬ operation.IsAdministrative := by
  cases operation with
  | completeDirect | completeRelay | completePayload | releaseInbound => exact id
  | _ => exact inbound.elim

theorem IsOutbound.not_isAdministrative {operation : Operation} (outbound : operation.IsOutbound) :
    ¬ operation.IsAdministrative := by
  cases operation with
  | stageOutbound | closeStagedOutbound | initiateTransfer => exact id
  | _ => exact outbound.elim

end Operation

namespace Deployment

variable {ρ : Type} {deployment after : Deployment ρ} {done : Unit}

theorem perform_install_eq_ok_iff {owner assistant feeUpdater feeRecipient : Address} :
    deployment.perform (install owner assistant feeUpdater feeRecipient) = (.ok done, after) ↔
      deployment.custodian = none ∧ owner ≠ 0 ∧ assistant ≠ 0 ∧ feeUpdater ≠ 0 ∧
        feeRecipient ≠ 0 ∧ after = { deployment with
          custodian := some ⟨owner, none, assistant, feeUpdater, feeRecipient⟩ } := by
  simp [install, perform_get_bind, perform_check_bind_eq_ok_iff, perform_set_eq_ok_iff]

theorem perform_submitOwnershipTransfer_eq_ok_iff {signer newOwner : Address} :
    deployment.perform (submitOwnershipTransfer signer newOwner) = (.ok done, after) ↔
      ∃ custodian, deployment.custodian = some custodian ∧ signer = custodian.owner ∧
        newOwner ≠ 0 ∧ newOwner ≠ custodian.owner ∧ after = { deployment with
          custodian := some { custodian with pendingOwner := some newOwner } } := by
  simp [submitOwnershipTransfer, setCustodian, perform_get_bind, perform_check_bind_eq_ok_iff,
    perform_modify_eq_ok_iff]

theorem perform_confirmOwnershipTransfer_eq_ok_iff {signer : Address} :
    deployment.perform (confirmOwnershipTransfer signer) = (.ok done, after) ↔
      ∃ custodian, deployment.custodian = some custodian ∧
        custodian.pendingOwner = some signer ∧ after = { deployment with
          custodian := some { custodian with owner := signer, pendingOwner := none } } := by
  simp [confirmOwnershipTransfer, setCustodian, perform_get_bind, perform_check_bind_eq_ok_iff,
    perform_modify_eq_ok_iff]

theorem perform_cancelOwnershipTransfer_eq_ok_iff {signer : Address} :
    deployment.perform (cancelOwnershipTransfer signer) = (.ok done, after) ↔
      ∃ custodian, deployment.custodian = some custodian ∧ signer = custodian.owner ∧
        after = { deployment with
          custodian := some { custodian with pendingOwner := none } } := by
  simp [cancelOwnershipTransfer, setCustodian, perform_get_bind, perform_check_bind_eq_ok_iff,
    perform_modify_eq_ok_iff]

theorem perform_updateAssistant_eq_ok_iff {signer assistant : Address} :
    deployment.perform (updateAssistant signer assistant) = (.ok done, after) ↔
      ∃ custodian, deployment.custodian = some custodian ∧ signer = custodian.owner ∧
        assistant ≠ 0 ∧
        after = { deployment with custodian := some { custodian with assistant } } := by
  simp [updateAssistant, setCustodian, perform_get_bind, perform_check_bind_eq_ok_iff,
    perform_modify_eq_ok_iff]

theorem perform_updateFeeUpdater_eq_ok_iff {signer feeUpdater : Address} :
    deployment.perform (updateFeeUpdater signer feeUpdater) = (.ok done, after) ↔
      ∃ custodian, deployment.custodian = some custodian ∧
        (signer = custodian.owner ∨ signer = custodian.assistant) ∧ feeUpdater ≠ 0 ∧
        after = { deployment with custodian := some { custodian with feeUpdater } } := by
  simp [updateFeeUpdater, setCustodian, perform_get_bind, perform_check_bind_eq_ok_iff,
    perform_modify_eq_ok_iff]

theorem perform_updateFeeRecipient_eq_ok_iff {signer feeRecipient : Address} :
    deployment.perform (updateFeeRecipient signer feeRecipient) = (.ok done, after) ↔
      ∃ custodian, deployment.custodian = some custodian ∧
        (signer = custodian.owner ∨ signer = custodian.assistant) ∧ feeRecipient ≠ 0 ∧
        after = { deployment with custodian := some { custodian with feeRecipient } } := by
  simp [updateFeeRecipient, setCustodian, perform_get_bind, perform_check_bind_eq_ok_iff,
    perform_modify_eq_ok_iff]

theorem perform_addPeer_eq_ok_iff {signer address : Address} {chain : ChainId}
    {terms : RelayTerms} :
    deployment.perform (addPeer signer chain address terms) = (.ok done, after) ↔
      ∃ custodian, deployment.custodian = some custodian ∧
        (signer = custodian.owner ∨ signer = custodian.assistant) ∧
        (chain ≠ 0 ∧ chain ≠ deployment.settings.chain) ∧ address ≠ 0 ∧ terms.Acceptable ∧
        deployment.peers.get? chain = none ∧ after = { deployment with
          peers := deployment.peers.insert chain ⟨chain, address, terms⟩ } := by
  simp [addPeer, perform_get_bind, perform_check_bind_eq_ok_iff, perform_set_eq_ok_iff]

theorem perform_updatePeer_eq_ok_iff {signer address : Address} {chain : ChainId}
    {terms : RelayTerms} :
    deployment.perform (updatePeer signer chain address terms) = (.ok done, after) ↔
      ∃ custodian, deployment.custodian = some custodian ∧ signer = custodian.owner ∧
        terms.Acceptable ∧ ∃ peer, deployment.peers.get? chain = some peer ∧
        peer.address = address ∧ after = { deployment with
          peers := deployment.peers.insert chain { peer with terms } } := by
  simp [updatePeer, perform_get_bind, perform_check_bind_eq_ok_iff, perform_set_eq_ok_iff]

theorem perform_updateTerms_eq_ok_iff {signer : Address} {chain : ChainId} {terms : RelayTerms} :
    deployment.perform (updateTerms signer chain terms) = (.ok done, after) ↔
      ∃ custodian, deployment.custodian = some custodian ∧
        (signer = custodian.feeUpdater ∨ signer = custodian.owner ∨
          signer = custodian.assistant) ∧
        terms.Acceptable ∧ ∃ peer, deployment.peers.get? chain = some peer ∧
        after = { deployment with peers := deployment.peers.insert chain { peer with terms } } := by
  simp [updateTerms, perform_get_bind, perform_check_bind_eq_ok_iff, perform_set_eq_ok_iff]

theorem perform_applyFeeUpdates_eq_ok_iff {signer : Address} {changes : List ChainFeeUpdate} :
    deployment.perform (applyFeeUpdates signer changes) = (.ok done, after) ↔
      ∃ custodian, deployment.custodian = some custodian ∧
        (signer = custodian.feeUpdater ∨ signer = custodian.owner ∨
          signer = custodian.assistant) ∧
        ∃ staged, deployment.stageFeeUpdates changes = .ok staged ∧ after = { deployment with
          peers := staged.entries.foldl setTerms deployment.peers } := by
  simp [applyFeeUpdates, perform_get_bind, perform_check_bind_eq_ok_iff, perform_set_eq_ok_iff]

theorem perform_executeGovernance_eq_ok_iff {signer : Address}
    {commands : List GovernanceCommand} :
    deployment.perform (executeGovernance signer commands) = (.ok done, after) ↔
      ∃ custodian, deployment.custodian = some custodian ∧ signer = custodian.owner ∧
        ∃ staged, deployment.stageCommands commands = .ok staged ∧ after = { deployment with
          peers := staged.entries.foldl setPeer deployment.peers } := by
  simp [executeGovernance, perform_get_bind, perform_check_bind_eq_ok_iff, perform_set_eq_ok_iff]

end Deployment

/-- How an operation that succeeds changes the accounts in charge. -/
inductive Appointment : Operation → Option Custodian → Custodian → Prop
  | install {owner assistant feeUpdater feeRecipient : Address} (owner_ne : owner ≠ 0)
      (assistant_ne : assistant ≠ 0) (feeUpdater_ne : feeUpdater ≠ 0)
      (feeRecipient_ne : feeRecipient ≠ 0) :
    Appointment (.install owner assistant feeUpdater feeRecipient) none
      ⟨owner, none, assistant, feeUpdater, feeRecipient⟩
  | submit {custodian : Custodian} {newOwner : Address} (newOwner_ne : newOwner ≠ 0)
      (newOwner_ne_owner : newOwner ≠ custodian.owner) :
    Appointment (.submitOwnershipTransfer custodian.owner newOwner) (some custodian)
      { custodian with pendingOwner := some newOwner }
  | confirm {custodian : Custodian} {successor : Address}
      (pending : custodian.pendingOwner = some successor) :
    Appointment (.confirmOwnershipTransfer successor) (some custodian)
      { custodian with owner := successor, pendingOwner := none }
  | cancel {custodian : Custodian} :
    Appointment (.cancelOwnershipTransfer custodian.owner) (some custodian)
      { custodian with pendingOwner := none }
  | assistant {custodian : Custodian} {assistant : Address} (assistant_ne : assistant ≠ 0) :
    Appointment (.updateAssistant custodian.owner assistant) (some custodian)
      { custodian with assistant }
  | feeUpdater {custodian : Custodian} {signer feeUpdater : Address}
      (admin : signer = custodian.owner ∨ signer = custodian.assistant)
      (feeUpdater_ne : feeUpdater ≠ 0) :
    Appointment (.updateFeeUpdater signer feeUpdater) (some custodian) { custodian with feeUpdater }
  | feeRecipient {custodian : Custodian} {signer feeRecipient : Address}
      (admin : signer = custodian.owner ∨ signer = custodian.assistant)
      (feeRecipient_ne : feeRecipient ≠ 0) :
    Appointment (.updateFeeRecipient signer feeRecipient) (some custodian)
      { custodian with feeRecipient }

namespace Deployment

variable {ρ : Type} {before after : Deployment ρ}

/-- How an operation that succeeds under a custodian changes the peers. -/
inductive Registration (before : Deployment ρ) (custodian : Custodian) :
    Operation → Table 2 Peer → Prop
  | add {signer address : Address} {chain : ChainId} {terms : RelayTerms}
      (admin : signer = custodian.owner ∨ signer = custodian.assistant)
      (foreign : chain ≠ 0 ∧ chain ≠ before.settings.chain) (address_ne : address ≠ 0)
      (acceptable : terms.Acceptable) (vacant : before.peers.get? chain = none) :
    before.Registration custodian (.addPeer signer chain address terms)
      (before.peers.insert chain ⟨chain, address, terms⟩)
  | peer {chain : ChainId} {terms : RelayTerms} {peer : Peer} (acceptable : terms.Acceptable)
      (known : before.peers.get? chain = some peer) :
    before.Registration custodian (.updatePeer custodian.owner chain peer.address terms)
      (before.peers.insert chain { peer with terms })
  | terms {signer : Address} {chain : ChainId} {terms : RelayTerms} {peer : Peer}
      (updater : signer = custodian.feeUpdater ∨ signer = custodian.owner ∨
        signer = custodian.assistant)
      (acceptable : terms.Acceptable) (known : before.peers.get? chain = some peer) :
    before.Registration custodian (.updateTerms signer chain terms)
      (before.peers.insert chain { peer with terms })
  | feeUpdates {signer : Address} {changes : List ChainFeeUpdate} {staged : StagedTerms}
      (updater : signer = custodian.feeUpdater ∨ signer = custodian.owner ∨
        signer = custodian.assistant)
      (agreed : before.stageFeeUpdates changes = .ok staged) :
    before.Registration custodian (.applyFeeUpdates signer changes)
      (staged.entries.foldl setTerms before.peers)
  | governance {commands : List GovernanceCommand} {staged : Table 2 Peer}
      (agreed : before.stageCommands commands = .ok staged) :
    before.Registration custodian (.executeGovernance custodian.owner commands)
      (staged.entries.foldl setPeer before.peers)

/-- What administration that succeeds leaves behind. -/
inductive Administers (before : Deployment ρ) (operation : Operation) : Deployment ρ → Prop
  | appointed {custodian : Custodian}
      (appointment : Appointment operation before.custodian custodian) :
    before.Administers operation { before with custodian := some custodian }
  | registered {custodian : Custodian} {peers : Table 2 Peer}
      (charged : before.custodian = some custodian)
      (registration : before.Registration custodian operation peers) :
    before.Administers operation { before with peers }

theorem Administers.settings_eq {operation : Operation}
    (administers : before.Administers operation after) : after.settings = before.settings := by
  cases administers with
  | appointed appointment => rfl
  | registered charged registration => rfl

/-- Every success of administration is one of the cases. -/
theorem administers_of_step_eq_ok [TokenRouter ρ] {operation : Operation} {outcome : Outcome}
    (administrative : operation.IsAdministrative)
    (accepted : before.step operation = (.ok outcome, after)) :
    outcome = .done ∧ before.Administers operation after := by
  cases operation with
  | install owner assistant feeUpdater feeRecipient =>
    obtain ⟨done, performed, rfl⟩ := perform_map_eq_ok_iff.mp accepted
    obtain ⟨uncharged, owner_ne, assistant_ne, feeUpdater_ne, feeRecipient_ne, rfl⟩ :=
      perform_install_eq_ok_iff.mp performed
    refine ⟨rfl, .appointed ?_⟩
    rw [uncharged]
    exact .install owner_ne assistant_ne feeUpdater_ne feeRecipient_ne
  | submitOwnershipTransfer signer newOwner =>
    obtain ⟨done, performed, rfl⟩ := perform_map_eq_ok_iff.mp accepted
    obtain ⟨custodian, charged, rfl, newOwner_ne, newOwner_ne_owner, rfl⟩ :=
      perform_submitOwnershipTransfer_eq_ok_iff.mp performed
    refine ⟨rfl, .appointed ?_⟩
    rw [charged]
    exact .submit newOwner_ne newOwner_ne_owner
  | confirmOwnershipTransfer signer =>
    obtain ⟨done, performed, rfl⟩ := perform_map_eq_ok_iff.mp accepted
    obtain ⟨custodian, charged, pending, rfl⟩ :=
      perform_confirmOwnershipTransfer_eq_ok_iff.mp performed
    refine ⟨rfl, .appointed ?_⟩
    rw [charged]
    exact .confirm pending
  | cancelOwnershipTransfer signer =>
    obtain ⟨done, performed, rfl⟩ := perform_map_eq_ok_iff.mp accepted
    obtain ⟨custodian, charged, rfl, rfl⟩ :=
      perform_cancelOwnershipTransfer_eq_ok_iff.mp performed
    refine ⟨rfl, .appointed ?_⟩
    rw [charged]
    exact .cancel
  | updateAssistant signer assistant =>
    obtain ⟨done, performed, rfl⟩ := perform_map_eq_ok_iff.mp accepted
    obtain ⟨custodian, charged, rfl, assistant_ne, rfl⟩ :=
      perform_updateAssistant_eq_ok_iff.mp performed
    refine ⟨rfl, .appointed ?_⟩
    rw [charged]
    exact .assistant assistant_ne
  | updateFeeUpdater signer feeUpdater =>
    obtain ⟨done, performed, rfl⟩ := perform_map_eq_ok_iff.mp accepted
    obtain ⟨custodian, charged, admin, feeUpdater_ne, rfl⟩ :=
      perform_updateFeeUpdater_eq_ok_iff.mp performed
    refine ⟨rfl, .appointed ?_⟩
    rw [charged]
    exact .feeUpdater admin feeUpdater_ne
  | updateFeeRecipient signer feeRecipient =>
    obtain ⟨done, performed, rfl⟩ := perform_map_eq_ok_iff.mp accepted
    obtain ⟨custodian, charged, admin, feeRecipient_ne, rfl⟩ :=
      perform_updateFeeRecipient_eq_ok_iff.mp performed
    refine ⟨rfl, .appointed ?_⟩
    rw [charged]
    exact .feeRecipient admin feeRecipient_ne
  | addPeer signer chain address terms =>
    obtain ⟨done, performed, rfl⟩ := perform_map_eq_ok_iff.mp accepted
    obtain ⟨custodian, charged, admin, foreign, address_ne, acceptable, vacant, rfl⟩ :=
      perform_addPeer_eq_ok_iff.mp performed
    exact ⟨rfl, .registered charged (.add admin foreign address_ne acceptable vacant)⟩
  | updatePeer signer chain address terms =>
    obtain ⟨done, performed, rfl⟩ := perform_map_eq_ok_iff.mp accepted
    obtain ⟨custodian, charged, rfl, acceptable, peer, known, rfl, rfl⟩ :=
      perform_updatePeer_eq_ok_iff.mp performed
    exact ⟨rfl, .registered charged (.peer acceptable known)⟩
  | updateTerms signer chain terms =>
    obtain ⟨done, performed, rfl⟩ := perform_map_eq_ok_iff.mp accepted
    obtain ⟨custodian, charged, updater, acceptable, peer, known, rfl⟩ :=
      perform_updateTerms_eq_ok_iff.mp performed
    exact ⟨rfl, .registered charged (.terms updater acceptable known)⟩
  | applyFeeUpdates signer changes =>
    obtain ⟨done, performed, rfl⟩ := perform_map_eq_ok_iff.mp accepted
    obtain ⟨custodian, charged, updater, staged, agreed, rfl⟩ :=
      perform_applyFeeUpdates_eq_ok_iff.mp performed
    exact ⟨rfl, .registered charged (.feeUpdates updater agreed)⟩
  | executeGovernance signer commands =>
    obtain ⟨done, performed, rfl⟩ := perform_map_eq_ok_iff.mp accepted
    obtain ⟨custodian, charged, rfl, staged, agreed, rfl⟩ :=
      perform_executeGovernance_eq_ok_iff.mp performed
    exact ⟨rfl, .registered charged (.governance agreed)⟩
  | _ => exact administrative.elim

end Deployment
end SwapRelay
