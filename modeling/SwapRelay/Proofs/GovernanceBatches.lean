import SwapRelay.Proofs.Registry

/-!
# Governance batches

A command of a batch is checked against the registry behind the peers that the batch has staged so
far, and the staged peers are written at the end. Commands that are executed one at a time meet just
that registry (`withStaged`), so a batch does what its commands do one after the other. In the end
every chain that is named has what the last command for it says.
-/

namespace SwapRelay

/-- Two checks are refused for the same reason, or both succeed with related results. -/
inductive Corresponds {α β : Type} (related : α → β → Prop) :
    Except SwapError α → Except SwapError β → Prop
  | ok {first : α} {second : β} (holds : related first second) :
    Corresponds related (.ok first) (.ok second)
  | error (fault : SwapError) : Corresponds related (.error fault) (.error fault)

namespace Corresponds

variable {α β γ : Type} {related : α → β → Prop} {second : Except SwapError β}

theorem bind {check : Except SwapError γ} {next : γ → Except SwapError α}
    {further : γ → Except SwapError β}
    (others : ∀ value, Corresponds related (next value) (further value)) :
    Corresponds related (check >>= next) (check >>= further) := by
  cases check with
  | error fault => exact .error fault
  | ok value => exact others value

theorem exists_eq_ok {value : α} (corresponds : Corresponds related (.ok value) second) :
    ∃ result, second = .ok result ∧ related value result := by
  cases corresponds with
  | ok holds => exact ⟨_, rfl, holds⟩

theorem eq_error {fault : SwapError} (corresponds : Corresponds related (.error fault) second) :
    second = .error fault := by
  cases corresponds with
  | error => rfl

end Corresponds

/-- The address and the prices that a command sets for a chain, if it names the chain. -/
def GovernanceCommand.setting? (chain : ChainId) :
    GovernanceCommand → Option (Address × FeeRecord)
  | .updateEndpoint endpoint fees =>
    if endpoint.chain = chain then some (endpoint.address, fees) else none
  | _ => none

def lastSetting? (chain : ChainId) (commands : List GovernanceCommand) :
    Option (Address × FeeRecord) :=
  (commands.filterMap (·.setting? chain)).getLast?

namespace Deployment

variable {ρ : Type} {deployment after : Deployment ρ} {staged : Table 2 Peer} {signer : Address}
  {commands : List GovernanceCommand}

/-- Executes batches of one command each, up to the first that is refused. -/
def executeSingly (signer : Address) (commands : List GovernanceCommand) : Action ρ Unit :=
  commands.forM fun command => executeGovernance signer [command]

def OwnedBy (deployment : Deployment ρ) (signer : Address) : Prop :=
  ∃ custodian ∈ deployment.custodian, signer = custodian.owner

/-- The deployment with staged peers written over the registered ones. -/
def withStaged (deployment : Deployment ρ) (staged : Table 2 Peer) : Deployment ρ :=
  { deployment with peers := staged.entries.foldl setPeer deployment.peers }

section Staging

theorem get?_withStaged (chain : ChainId) :
    (deployment.withStaged staged).peers.get? chain =
      (staged.get? chain).or (deployment.peers.get? chain) := by
  refine (Table.get?_foldl (fun peer _ => some peer) get?_setPeer staged _ chain).trans ?_
  cases staged.get? chain <;> rfl

theorem withStaged_congr {other : Deployment ρ} {others : Table 2 Peer}
    (same : ∀ peers, { other with peers } = { deployment with peers })
    (found : ∀ chain, (other.withStaged others).peers.get? chain =
      (deployment.withStaged staged).peers.get? chain) :
    other.withStaged others = deployment.withStaged staged := by
  have peers := Table.ext_get? found
  exact (congrArg (fun peers => { other with peers }) peers).trans (same _)

theorem withStaged_insert (chain : ChainId) (peer : Peer) :
    (deployment.withStaged staged).withStaged (Table.empty.insert chain peer) =
      deployment.withStaged (staged.insert chain peer) := by
  refine withStaged_congr (fun _ => rfl) fun other => ?_
  simp only [get?_withStaged, Table.get?_insert]
  split <;> rfl

theorem timeLimitDuring_withStaged (endpoint : Endpoint) :
    (deployment.withStaged staged).timeLimitDuring .empty endpoint =
      deployment.timeLimitDuring staged endpoint := by
  unfold timeLimitDuring
  rw [get?_withStaged, Table.get?_empty, Option.none_or]
  rfl

/-- A command of a batch is refused as it is refused alone, or it stages what it writes alone. -/
theorem stageCommand_corresponds (deployment : Deployment ρ) (staged : Table 2 Peer)
    (command : GovernanceCommand) :
    Corresponds
      (fun next single =>
        (deployment.withStaged staged).withStaged single = deployment.withStaged next)
      (deployment.stageCommand staged command)
      ((deployment.withStaged staged).stageCommand .empty command) := by
  cases command with
  | updateEndpoint endpoint fees =>
    simp only [stageCommand, timeLimitDuring_withStaged]
    refine .bind fun _ => .bind fun _ => .bind fun limit => .bind fun _ => .ok ?_
    exact withStaged_insert endpoint.chain _
  | proposeEndpointUpdate endpoint => exact .error _
  | upgradeContract implementation => exact .error _
  | proposeContractUpgrade implementation => exact .error _

end Staging

section Singly

theorem executeSingly_cons (command : GovernanceCommand) (later : List GovernanceCommand) :
    executeSingly (ρ := ρ) signer (command :: later) =
      executeGovernance signer [command] >>= fun _ => executeSingly signer later := rfl

theorem perform_executeGovernance (owned : deployment.OwnedBy signer)
    (commands : List GovernanceCommand) :
    deployment.perform (executeGovernance signer commands) =
      match deployment.stageCommands commands with
      | .ok staged => (.ok (), deployment.withStaged staged)
      | .error fault => (.error fault, deployment) := by
  obtain ⟨custodian, charged, signed⟩ := owned
  have passed : custodian.requireOwner signer = .ok () :=
    Custodian.requireOwner_eq_ok_iff.mpr signed
  rw [executeGovernance, perform_get_bind,
    perform_check_bind_of_eq_ok (requireCustodian_eq_ok_iff.mpr charged),
    perform_check_bind_of_eq_ok passed]
  cases deployment.stageCommands commands with
  | error fault => exact perform_check_bind_of_eq_error rfl
  | ok peers => exact perform_check_bind_of_eq_ok rfl

theorem exists_fault_of_not_ownedBy (foreign : ¬ deployment.OwnedBy signer) :
    ∃ fault, ∀ commands,
      deployment.perform (executeGovernance signer commands) = (.error fault, deployment) := by
  cases charged : deployment.custodian with
  | none =>
    have missing : deployment.requireCustodian = .error .notInitialized := by
      rw [requireCustodian, charged]
    refine ⟨.notInitialized, fun commands => ?_⟩
    rw [executeGovernance, perform_get_bind, perform_check_bind_of_eq_error missing]
  | some custodian =>
    have refused : custodian.requireOwner signer = .error .ownerOnly :=
      if_neg fun signed => foreign ⟨custodian, charged, signed⟩
    refine ⟨.ownerOnly, fun commands => ?_⟩
    rw [executeGovernance, perform_get_bind,
      perform_check_bind_of_eq_ok (requireCustodian_eq_ok_iff.mpr charged),
      perform_check_bind_of_eq_error refused]

/-- Commands that are executed singly are refused as in a batch, and without a refusal they write
what the batch stages. -/
theorem perform_executeSingly (owned : deployment.OwnedBy signer)
    (commands : List GovernanceCommand) (staged : Table 2 Peer) :
    match commands.foldlM deployment.stageCommand staged with
    | .ok last => (deployment.withStaged staged).perform (executeSingly signer commands) =
        (.ok (), deployment.withStaged last)
    | .error fault =>
      ((deployment.withStaged staged).perform (executeSingly signer commands)).1 =
        .error fault := by
  induction commands generalizing staged with
  | nil => rfl
  | cons command later ih =>
    have ownedThen : (deployment.withStaged staged).OwnedBy signer := owned
    have corresponds := deployment.stageCommand_corresponds staged command
    have single := perform_executeGovernance ownedThen [command]
    rw [List.foldlM_cons, executeSingly_cons, perform_bind, single]
    simp only [stageCommands, List.foldlM_cons, List.foldlM_nil]
    cases next_eq : deployment.stageCommand staged command with
    | error fault =>
      rw [next_eq] at corresponds
      rw [corresponds.eq_error]
      rfl
    | ok next =>
      rw [next_eq] at corresponds
      obtain ⟨single, agreed, same⟩ := corresponds.exists_eq_ok
      rw [agreed]
      have others := ih next
      rw [← same] at others
      exact others

end Singly

section Settings

/-- The time limits that governance gives to a chain: those of its peer, or else the standard ones. -/
def timeLimitOf (deployment : Deployment ρ) (chain : ChainId) : SwapTimeLimit :=
  match deployment.peers.get? chain with
  | some peer => peer.terms.swapTimeLimit
  | none => deployment.settings.swapTimeLimit

def settledPeer (deployment : Deployment ρ) (chain : ChainId) (setting : Address × FeeRecord) :
    Peer :=
  ⟨chain, setting.1, .ofFeeRecord setting.2 (deployment.timeLimitOf chain)⟩

def StagesLimits (deployment : Deployment ρ) (staged : Table 2 Peer) : Prop :=
  ∀ chain peer, staged.get? chain = some peer →
    peer.terms.swapTimeLimit = deployment.timeLimitOf chain

theorem StagesLimits.empty : deployment.StagesLimits .empty := fun _ _ found => nomatch found

theorem StagesLimits.eq_timeLimitOf (limits : deployment.StagesLimits staged) {endpoint : Endpoint}
    {limit : SwapTimeLimit} (found : deployment.timeLimitDuring staged endpoint = .ok limit) :
    limit = deployment.timeLimitOf endpoint.chain := by
  have found := timeLimitDuring_eq_ok_iff.mp found
  cases earlier : staged.get? endpoint.chain with
  | some peer =>
    rw [earlier] at found
    exact found.2.trans (limits endpoint.chain peer earlier)
  | none =>
    rw [earlier, Option.none_or] at found
    unfold timeLimitOf
    cases registered : deployment.peers.get? endpoint.chain with
    | some peer =>
      rw [registered] at found
      exact found.2
    | none =>
      rw [registered] at found
      exact found

theorem StagesLimits.stageCommand_cases {command : GovernanceCommand} {next : Table 2 Peer}
    (limits : deployment.StagesLimits staged)
    (accepted : deployment.stageCommand staged command = .ok next) :
    deployment.StagesLimits next ∧ ∀ chain, next.get? chain =
      match command.setting? chain with
      | some setting => some (deployment.settledPeer chain setting)
      | none => staged.get? chain := by
  obtain ⟨endpoint, fees, limit, rfl, -, -, limited, -, rfl⟩ := stageCommand_eq_ok_iff.mp accepted
  have limited := limits.eq_timeLimitOf limited
  subst limited
  refine ⟨fun chain peer found => ?_, fun chain => ?_⟩
  · rw [Table.get?_insert] at found
    split at found
    · rename_i same
      subst same
      cases found
      rfl
    · exact limits chain peer found
  · rw [Table.get?_insert, GovernanceCommand.setting?]
    by_cases same : endpoint.chain = chain
    · subst same
      rw [if_pos rfl, if_pos rfl]
      rfl
    · rw [if_neg (Ne.symm same), if_neg same]

theorem get?_foldlM_stageCommand {last : Table 2 Peer} (limits : deployment.StagesLimits staged)
    (agreed : commands.foldlM deployment.stageCommand staged = .ok last) (chain : ChainId) :
    last.get? chain = ((lastSetting? chain commands).map (deployment.settledPeer chain)).or
      (staged.get? chain) := by
  induction commands generalizing staged with
  | nil =>
    cases agreed
    rfl
  | cons command later ih =>
    rw [List.foldlM_cons] at agreed
    obtain ⟨next, accepted, agreed⟩ := bind_eq_ok_iff.mp agreed
    obtain ⟨limits, found⟩ := limits.stageCommand_cases accepted
    unfold lastSetting? at ih ⊢
    rw [ih limits agreed, found, getLast?_filterMap_cons]
    cases (later.filterMap (·.setting? chain)).getLast? with
    | some setting => rfl
    | none => cases command.setting? chain <;> rfl

end Settings

section Batch

theorem refused_singly_of_not_ownedBy (foreign : ¬ deployment.OwnedBy signer) {fault : SwapError}
    (refused : (deployment.perform (executeSingly signer commands)).1 = .error fault) :
    deployment.perform (executeGovernance signer commands) = (.error fault, deployment) := by
  obtain ⟨cause, always⟩ := exists_fault_of_not_ownedBy foreign
  cases commands with
  | nil => cases refused
  | cons command later =>
    rw [executeSingly_cons, perform_bind, always] at refused
    cases refused
    exact always (command :: later)

theorem get?_withStaged_of_stageCommands
    (agreed : deployment.stageCommands commands = .ok staged) (chain : ChainId) :
    (deployment.withStaged staged).peers.get? chain =
      match lastSetting? chain commands with
      | some (address, fees) =>
        some ⟨chain, address, .ofFeeRecord fees (deployment.timeLimitOf chain)⟩
      | none => deployment.peers.get? chain := by
  rw [get?_withStaged, get?_foldlM_stageCommand StagesLimits.empty agreed]
  cases lastSetting? chain commands <;> rfl

/-- A batch succeeds exactly when the owner signs and the commands succeed one at a time, and both
leave the same behind. Otherwise it is refused for the reason of the first command that is refused,
and nothing changes. A chain that is named gets what the last command for it says, under the time
limits that it had or, if it had no peer, the standard ones; nothing else changes. -/
theorem governance_batch_sequential (deployment : Deployment ρ) (signer : Address)
    (commands : List GovernanceCommand) :
    let batch := deployment.perform (executeGovernance signer commands)
    let singly := deployment.perform (executeSingly signer commands)
    (∀ after, batch = (.ok (), after) ↔ deployment.OwnedBy signer ∧ singly = (.ok (), after)) ∧
    (∀ fault, singly.1 = .error fault → batch = (.error fault, deployment)) ∧
    ∀ after, batch = (.ok (), after) →
      after = { deployment with peers := after.peers } ∧
      ∀ chain, after.peers.get? chain =
        match lastSetting? chain commands with
        | some (address, fees) =>
          some ⟨chain, address, .ofFeeRecord fees (deployment.timeLimitOf chain)⟩
        | none => deployment.peers.get? chain := by
  intro batch singly
  by_cases owned : deployment.OwnedBy signer
  · have together : batch = _ := perform_executeGovernance owned commands
    have single := perform_executeSingly owned commands .empty
    change match deployment.stageCommands commands with
      | .ok last => singly = (.ok (), deployment.withStaged last)
      | .error fault => singly.1 = .error fault at single
    cases agreed : deployment.stageCommands commands with
    | error fault =>
      rw [agreed] at together single
      refine ⟨fun after => iff_of_false ?_ ?_, ?_, ?_⟩
      · simp [together]
      · rintro ⟨-, accepted⟩
        rw [accepted] at single
        cases single
      · intro cause refused
        cases single.symm.trans refused
        exact together
      · intro after accepted
        cases together.symm.trans accepted
    | ok last =>
      rw [agreed] at together single
      refine ⟨fun after => ?_, ?_, ?_⟩
      · rw [together, single]
        exact (and_iff_right owned).symm
      · intro fault refused
        rw [single] at refused
        cases refused
      · intro after accepted
        cases together.symm.trans accepted
        exact ⟨rfl, get?_withStaged_of_stageCommands agreed⟩
  · obtain ⟨fault, always⟩ := exists_fault_of_not_ownedBy owned
    have together : batch = (.error fault, deployment) := always commands
    refine ⟨fun after => iff_of_false ?_ fun signed => owned signed.1, ?_, ?_⟩
    · simp [together]
    · exact fun cause refused => refused_singly_of_not_ownedBy owned refused
    · intro after accepted
      cases together.symm.trans accepted

/-- A chain that gets a peer and then other prices, with an update of chain 2 in between. -/
def registeringBatch : List GovernanceCommand :=
  [ .updateEndpoint ⟨4, 44⟩ ⟨6, ⟨1⟩, .zero, 0, .zero, .zero, .zero, 1⟩,
    .updateEndpoint ⟨2, 22⟩ ⟨6, ⟨1⟩, .zero, 0, .zero, .zero, .zero, 1⟩,
    .updateEndpoint ⟨4, 44⟩ ⟨9, ⟨1⟩, .zero, 0, .zero, .zero, .zero, 1⟩ ]

/-- The same with a last command that would move the peer that the first one has made. -/
def movingBatch : List GovernanceCommand :=
  registeringBatch ++ [.updateEndpoint ⟨4, 66⟩ ⟨9, ⟨1⟩, .zero, 0, .zero, .zero, .zero, 1⟩]

theorem registeringBatch_sequential :
    let start := (fresh (.standard 1) MemoryRouter.empty).course registryCourse
    (∃ after, start.perform (executeGovernance 11 registeringBatch) = (.ok (), after) ∧
      start.perform (executeSingly 11 registeringBatch) = (.ok (), after) ∧
      after.peers.get? 4 = some ⟨4, 44, ⟨9, 1, .zero, 0, some ⟨⟨1⟩, 0⟩, ⟨10, 30⟩⟩⟩) ∧
    start.perform (executeGovernance 11 movingBatch) = (.error .invalidPeer, start) := by
  intro start
  obtain ⟨same, -, written⟩ := governance_batch_sequential start 11 registeringBatch
  obtain ⟨-, refused, -⟩ := governance_batch_sequential start 11 movingBatch
  have done : (start.perform (executeGovernance 11 registeringBatch)).1 = .ok () := rfl
  have accepted : start.perform (executeGovernance 11 registeringBatch) =
    (.ok (), (start.perform (executeGovernance 11 registeringBatch)).2) := Prod.ext done rfl
  exact ⟨⟨_, accepted, ((same _).mp accepted).2, (written _ accepted).2 4⟩, refused _ rfl⟩

end Batch

end Deployment
end SwapRelay
