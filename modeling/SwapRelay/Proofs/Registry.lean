import SwapRelay.Proofs.Courses
import SwapRelay.Proofs.Tables

/-!
# The registry of peers

What operations do to the peers of a deployment. A chain gets a peer once, by the registration of a
valid one, and from then on only its terms are revised, by acceptable ones; a chain never loses its
peer and the peer never moves. Batches stage what they change beside the registry and write it at
the end, so a batch is described by what a look-up answers afterwards.
-/

namespace SwapRelay

/-- A peer that may be registered under the number of a chain. -/
structure Peer.Valid (peer : Peer) (settings : Settings) (chain : ChainId) : Prop where
  chain_eq : peer.chain = chain
  foreign : chain ≠ 0 ∧ chain ≠ settings.chain
  address_ne : peer.address ≠ 0
  acceptable : peer.terms.Acceptable

namespace Operation

/-- The operations that set the terms of the peer on a chain as a whole, time limits included. -/
def SetsTerms (chain : ChainId) (terms : RelayTerms) : Operation → Prop
  | .updatePeer _ named _ given | .updateTerms _ named given => named = chain ∧ given = terms
  | _ => False

end Operation

/-- What an operation can do to the peer of a chain: nothing, register it, or revise its terms. The
time limits change only with terms that are set as a whole. -/
inductive PeerChange (settings : Settings) (chain : ChainId) (operation : Operation) :
    Option Peer → Option Peer → Prop
  | kept (peer? : Option Peer) : PeerChange settings chain operation peer? peer?
  | registered (peer : Peer) (valid : peer.Valid settings chain) :
    PeerChange settings chain operation none (some peer)
  | revised (peer : Peer) (terms : RelayTerms) (acceptable : terms.Acceptable)
      (limited : terms.swapTimeLimit = peer.terms.swapTimeLimit ∨
        operation.SetsTerms chain terms) :
    PeerChange settings chain operation (some peer) (some { peer with terms })

namespace PeerChange

variable {settings : Settings} {chain : ChainId} {operation : Operation}

theorem exists_terms {peer : Peer} {peer? : Option Peer}
    (change : PeerChange settings chain operation (some peer) peer?) :
    ∃ terms, peer? = some { peer with terms } ∧
      (terms.swapTimeLimit = peer.terms.swapTimeLimit ∨ operation.SetsTerms chain terms) := by
  cases change with
  | kept => exact ⟨peer.terms, rfl, .inl rfl⟩
  | revised _ terms acceptable limited => exact ⟨terms, rfl, limited⟩

theorem valid {before after : Option Peer}
    (change : PeerChange settings chain operation before after)
    (valid : ∀ peer, before = some peer → peer.Valid settings chain) :
    ∀ peer, after = some peer → peer.Valid settings chain := by
  cases change with
  | kept => exact valid
  | registered peer new =>
    rintro _ ⟨⟩
    exact new
  | revised peer terms acceptable limited =>
    obtain ⟨chain_eq, foreign, address_ne, -⟩ := valid peer rfl
    rintro _ ⟨⟩
    exact ⟨chain_eq, foreign, address_ne, acceptable⟩

end PeerChange

theorem RelayTerms.swapTimeLimit_of_apply {terms changed : RelayTerms} {update : FeeUpdate}
    (applied : terms.apply update = .ok changed) : changed.swapTimeLimit = terms.swapTimeLimit := by
  have modified {change : EvmTerms → EvmTerms} (applied : terms.modifyEvm change = .ok changed) :
      changed.swapTimeLimit = terms.swapTimeLimit := by
    unfold modifyEvm at applied
    split at applied
    · cases applied
      rfl
    · cases applied
  cases update with
  | gasPrice timestamp price => exact modified applied
  | gasPriceMargin margin => exact modified applied
  | gasPriceUpdateThreshold threshold => cases applied
  | _ =>
    cases applied
    rfl

namespace Deployment

def ValidPeers {ρ : Type} (deployment : Deployment ρ) : Prop :=
  ∀ chain peer, deployment.peers.get? chain = some peer → peer.Valid deployment.settings chain

section Batches

variable {ρ : Type} {deployment : Deployment ρ} {operation : Operation}

theorem get?_setPeer (peers : Table 2 Peer) (entry : ChainId × Peer) (chain : ChainId) :
    (setPeer peers entry).get? chain =
      if chain = entry.1 then some entry.2 else peers.get? chain :=
  Table.get?_insert peers entry.1 chain entry.2

theorem get?_setTerms (peers : Table 2 Peer) (entry : ChainId × RelayTerms) (chain : ChainId) :
    (setTerms peers entry).get? chain =
      if chain = entry.1 then (peers.get? chain).map fun peer => { peer with terms := entry.2 }
      else peers.get? chain := by
  unfold setTerms
  split
  · rename_i peer known
    rw [Table.get?_insert]
    split
    · rename_i same
      rw [same, known]
      rfl
    · rfl
  · rename_i unknown
    split
    · rename_i same
      rw [same, unknown]
      rfl
    · rfl

theorem termsDuring_eq_ok_iff {staged : StagedTerms} {chain : ChainId} {terms : RelayTerms} :
    deployment.termsDuring staged chain = .ok terms ↔
      staged.get? chain = some terms ∨ staged.get? chain = none ∧
        ∃ peer, deployment.peers.get? chain = some peer ∧ peer.terms = terms := by
  unfold termsDuring
  cases staged.get? chain with
  | none =>
    simp only [reduceCtorEq, false_or, true_and, bind_eq_ok_iff, requirePeer_eq_ok_iff,
      pure_eq_ok_iff]
  | some found => simp

theorem stageFeeUpdate_eq_ok_iff {staged after : StagedTerms} {change : ChainFeeUpdate} :
    deployment.stageFeeUpdate staged change = .ok after ↔
      ∃ terms changed, deployment.termsDuring staged change.chain = .ok terms ∧
        terms.apply change.update = .ok changed ∧ after = staged.insert change.chain changed := by
  unfold stageFeeUpdate
  simp only [bind_eq_ok_iff, pure_eq_ok_iff]
  constructor
  · rintro ⟨terms, found, changed, applied, rfl⟩
    exact ⟨terms, changed, found, applied, rfl⟩
  · rintro ⟨terms, changed, found, applied, rfl⟩
    exact ⟨terms, found, changed, applied, rfl⟩

/-- Only the outcome of a batch has to be acceptable, not what it passes through. -/
theorem stageFeeUpdates_eq_ok_iff {changes : List ChainFeeUpdate} {staged : StagedTerms} :
    deployment.stageFeeUpdates changes = .ok staged ↔
      changes.foldlM deployment.stageFeeUpdate .empty = .ok staged ∧
        staged.values.forM RelayTerms.verify = .ok () := by
  unfold stageFeeUpdates
  simp only [bind_eq_ok_iff, pure_eq_ok_iff]
  constructor
  · rintro ⟨_, folded, _, verified, rfl⟩
    exact ⟨folded, verified⟩
  · rintro ⟨folded, verified⟩
    exact ⟨staged, folded, (), verified, rfl⟩

theorem acceptable_of_stageFeeUpdates {changes : List ChainFeeUpdate} {staged : StagedTerms}
    (agreed : deployment.stageFeeUpdates changes = .ok staged) {chain : ChainId}
    {terms : RelayTerms} (found : staged.get? chain = some terms) : terms.Acceptable := by
  have verified := (stageFeeUpdates_eq_ok_iff.mp agreed).2
  have listed : terms ∈ staged.values := Table.mem_values_iff.mpr ⟨chain, found⟩
  exact RelayTerms.verify_eq_ok_iff.mp (forM_eq_ok_iff.mp verified terms listed)

def KeepsTimeLimits (deployment : Deployment ρ) (staged : StagedTerms) : Prop :=
  ∀ chain terms, staged.get? chain = some terms → ∀ peer, deployment.peers.get? chain = some peer →
    terms.swapTimeLimit = peer.terms.swapTimeLimit

theorem KeepsTimeLimits.stageFeeUpdate {before after : StagedTerms} {change : ChainFeeUpdate}
    (kept : deployment.KeepsTimeLimits before)
    (accepted : deployment.stageFeeUpdate before change = .ok after) :
    deployment.KeepsTimeLimits after := by
  obtain ⟨terms, changed, found, applied, rfl⟩ := stageFeeUpdate_eq_ok_iff.mp accepted
  intro chain later staged peer registered
  rw [Table.get?_insert] at staged
  split at staged
  · rename_i same
    subst same
    cases staged
    rw [RelayTerms.swapTimeLimit_of_apply applied]
    rcases termsDuring_eq_ok_iff.mp found with earlier | ⟨-, known, same, rfl⟩
    · exact kept change.chain terms earlier peer registered
    · cases registered.symm.trans same
      rfl
  · exact kept chain later staged peer registered

theorem keepsTimeLimits_of_stageFeeUpdates {changes : List ChainFeeUpdate} {staged : StagedTerms}
    (agreed : deployment.stageFeeUpdates changes = .ok staged) :
    deployment.KeepsTimeLimits staged :=
  foldlM_invariant (fun _ _ _ accepted kept => kept.stageFeeUpdate accepted)
    (stageFeeUpdates_eq_ok_iff.mp agreed).1 fun _ _ found => nomatch found

theorem timeLimitDuring_eq_ok_iff {staged : Table 2 Peer} {endpoint : Endpoint}
    {limit : SwapTimeLimit} :
    deployment.timeLimitDuring staged endpoint = .ok limit ↔
      match (staged.get? endpoint.chain).or (deployment.peers.get? endpoint.chain) with
      | some peer => peer.address = endpoint.address ∧ limit = peer.terms.swapTimeLimit
      | none => limit = deployment.settings.swapTimeLimit := by
  unfold timeLimitDuring
  cases (staged.get? endpoint.chain).or (deployment.peers.get? endpoint.chain) with
  | none => rw [pure_eq_ok_iff, eq_comm]
  | some peer =>
    simp only [bind_eq_ok_iff, require_eq_ok_iff, pure_eq_ok_iff, exists_const]
    rw [@eq_comm _ limit]

theorem stageCommand_eq_ok_iff {staged after : Table 2 Peer} {command : GovernanceCommand} :
    deployment.stageCommand staged command = .ok after ↔
      ∃ endpoint fees limit, command = .updateEndpoint endpoint fees ∧
        (endpoint.chain ≠ 0 ∧ endpoint.chain ≠ deployment.settings.chain) ∧
        endpoint.address ≠ 0 ∧ deployment.timeLimitDuring staged endpoint = .ok limit ∧
        (RelayTerms.ofFeeRecord fees limit).Acceptable ∧
        after = staged.insert endpoint.chain
          ⟨endpoint.chain, endpoint.address, RelayTerms.ofFeeRecord fees limit⟩ := by
  cases command with
  | updateEndpoint endpoint fees =>
    simp only [stageCommand, bind_eq_ok_iff, requireForeign_eq_ok_iff, require_eq_ok_iff,
      RelayTerms.verify_eq_ok_iff, pure_eq_ok_iff, exists_const]
    constructor
    · rintro ⟨foreign, address, limit, limited, acceptable, rfl⟩
      exact ⟨endpoint, fees, limit, rfl, foreign, address, limited, acceptable, rfl⟩
    · rintro ⟨_, _, limit, ⟨⟩, foreign, address, limited, acceptable, rfl⟩
      exact ⟨foreign, address, limit, limited, acceptable, rfl⟩
  | proposeEndpointUpdate endpoint => simp [stageCommand]
  | upgradeContract implementation => simp [stageCommand]
  | proposeContractUpgrade implementation => simp [stageCommand]

/-- Staged peers are valid, and where one is registered they have its address and time limits. -/
def StagesPeers (deployment : Deployment ρ) (staged : Table 2 Peer) : Prop :=
  ∀ chain peer, staged.get? chain = some peer → peer.Valid deployment.settings chain ∧
    ∀ known, deployment.peers.get? chain = some known →
      peer.address = known.address ∧ peer.terms.swapTimeLimit = known.terms.swapTimeLimit

/-- A chain that the batch names again is compared with what the batch has made of it, which was
compared with the registry before. -/
theorem StagesPeers.stageCommand {before after : Table 2 Peer} {command : GovernanceCommand}
    (staged : deployment.StagesPeers before)
    (accepted : deployment.stageCommand before command = .ok after) :
    deployment.StagesPeers after := by
  obtain ⟨endpoint, fees, limit, -, foreign, address, limited, acceptable, rfl⟩ :=
    stageCommand_eq_ok_iff.mp accepted
  have limited := timeLimitDuring_eq_ok_iff.mp limited
  intro chain peer found
  rw [Table.get?_insert] at found
  split at found
  · rename_i same
    subst same
    cases found
    refine ⟨⟨rfl, foreign, address, acceptable⟩, fun known registered => ?_⟩
    cases earlier : before.get? endpoint.chain with
    | none =>
      rw [earlier, registered] at limited
      exact ⟨limited.1.symm, limited.2⟩
    | some peer =>
      rw [earlier] at limited
      obtain ⟨pinned, kept⟩ := (staged _ peer earlier).2 known registered
      exact ⟨limited.1.symm.trans pinned, limited.2.trans kept⟩
  · exact staged chain peer found

theorem stagesPeers_of_stageCommands {commands : List GovernanceCommand} {staged : Table 2 Peer}
    (agreed : deployment.stageCommands commands = .ok staged) : deployment.StagesPeers staged :=
  foldlM_invariant (fun _ _ _ accepted kept => kept.stageCommand accepted) agreed
    fun _ _ found => nomatch found

theorem peerChange_insert {named : ChainId} {peer : Peer} {terms : RelayTerms}
    (known : deployment.peers.get? named = some peer) (acceptable : terms.Acceptable)
    (sets : operation.SetsTerms named terms) (chain : ChainId) :
    PeerChange deployment.settings chain operation (deployment.peers.get? chain)
      ((deployment.peers.insert named { peer with terms }).get? chain) := by
  rw [Table.get?_insert]
  split
  · rename_i same
    rw [same, known]
    exact .revised peer terms acceptable (.inr sets)
  · exact .kept _

theorem peerChange_of_stageFeeUpdates {changes : List ChainFeeUpdate} {staged : StagedTerms}
    (agreed : deployment.stageFeeUpdates changes = .ok staged) (chain : ChainId) :
    PeerChange deployment.settings chain operation (deployment.peers.get? chain)
      ((staged.entries.foldl setTerms deployment.peers).get? chain) := by
  rw [Table.get?_foldl (fun terms => Option.map fun peer => { peer with terms }) get?_setTerms]
  cases found : staged.get? chain with
  | none => exact .kept _
  | some terms =>
    cases registered : deployment.peers.get? chain with
    | none => exact .kept _
    | some peer =>
      have limited := keepsTimeLimits_of_stageFeeUpdates agreed chain terms found peer registered
      exact .revised peer terms (acceptable_of_stageFeeUpdates agreed found) (.inl limited)

theorem peerChange_of_stageCommands (valid : deployment.ValidPeers)
    {commands : List GovernanceCommand} {staged : Table 2 Peer}
    (agreed : deployment.stageCommands commands = .ok staged) (chain : ChainId) :
    PeerChange deployment.settings chain operation (deployment.peers.get? chain)
      ((staged.entries.foldl setPeer deployment.peers).get? chain) := by
  rw [Table.get?_foldl (fun peer _ => some peer) get?_setPeer]
  cases found : staged.get? chain with
  | none => exact .kept _
  | some peer =>
    obtain ⟨new, pinned⟩ := stagesPeers_of_stageCommands agreed chain peer found
    cases registered : deployment.peers.get? chain with
    | none => exact .registered peer new
    | some known =>
      obtain ⟨address, limited⟩ := pinned known registered
      have home : peer.chain = known.chain :=
        new.chain_eq.trans (valid chain known registered).chain_eq.symm
      have same : peer = { known with terms := peer.terms } := by
        rw [← home, ← address]
      rw [same]
      exact .revised known peer.terms new.acceptable (.inl limited)

theorem Registration.peerChange {custodian : Custodian} {peers : Table 2 Peer}
    (registration : deployment.Registration custodian operation peers)
    (valid : deployment.ValidPeers) (chain : ChainId) :
    PeerChange deployment.settings chain operation (deployment.peers.get? chain)
      (peers.get? chain) := by
  cases registration with
  | add admin foreign address_ne acceptable vacant =>
    rw [Table.get?_insert]
    split
    · rename_i same
      rw [same, vacant]
      exact .registered _ ⟨rfl, foreign, address_ne, acceptable⟩
    · exact .kept _
  | peer acceptable known =>
    refine peerChange_insert known acceptable ?_ chain
    exact ⟨rfl, rfl⟩
  | terms updater acceptable known =>
    refine peerChange_insert known acceptable ?_ chain
    exact ⟨rfl, rfl⟩
  | feeUpdates updater agreed => exact peerChange_of_stageFeeUpdates agreed chain
  | governance agreed => exact peerChange_of_stageCommands valid agreed chain

end Batches

section Courses

variable {ρ : Type} [TokenRouter ρ] {before : Deployment ρ}

/-- What an operation can do to the peer of a chain, whether or not it is refused. -/
theorem peerChange_step (valid : before.ValidPeers) (operation : Operation) (chain : ChainId) :
    PeerChange before.settings chain operation (before.peers.get? chain)
      ((before.step operation).2.peers.get? chain) := by
  rcases before.administers_or_administered_eq operation with administers | same
  · generalize (before.step operation).2 = after at administers
    cases administers with
    | appointed appointment => exact .kept _
    | registered charged registration => exact registration.peerChange valid chain
  · rw [peers_eq_of_administered_eq same]
    exact .kept _

theorem validPeers_meet (valid : before.ValidPeers) (occurrence : Occurrence ρ) :
    (before.meet occurrence).ValidPeers := by
  cases occurrence with
  | moved change => exact valid
  | asked operation =>
    intro chain
    rw [before.settings_meet]
    exact (peerChange_step valid operation chain).valid (valid chain)

theorem validPeers_course (settings : Settings) (router : ρ) (occurrences : List (Occurrence ρ)) :
    ((fresh settings router).course occurrences).ValidPeers :=
  course_induction (P := ValidPeers) (fun _ occurrence valid => validPeers_meet valid occurrence)
    occurrences fun _ _ => nofun

theorem exists_terms_meet (valid : before.ValidPeers) {chain : ChainId} {peer : Peer}
    (registered : before.peers.get? chain = some peer) (occurrence : Occurrence ρ) :
    ∃ terms, (before.meet occurrence).peers.get? chain = some { peer with terms } ∧
      (terms.swapTimeLimit = peer.terms.swapTimeLimit ∨
        ∃ operation, occurrence = .asked operation ∧ operation.SetsTerms chain terms) := by
  cases occurrence with
  | moved change => exact ⟨peer.terms, registered, .inl rfl⟩
  | asked operation =>
    have change := peerChange_step valid operation chain
    rw [registered] at change
    obtain ⟨terms, found, limited⟩ := change.exists_terms
    exact ⟨terms, found, limited.imp_right fun sets => ⟨operation, rfl, sets⟩⟩

theorem exists_terms_course (valid : before.ValidPeers) {chain : ChainId} {peer : Peer}
    (registered : before.peers.get? chain = some peer) (later : List (Occurrence ρ)) :
    ∃ terms, (before.course later).peers.get? chain = some { peer with terms } := by
  have kept : ∀ (now : Deployment ρ) (occurrence : Occurrence ρ),
      (now.ValidPeers ∧ ∃ terms, now.peers.get? chain = some { peer with terms }) →
      (now.meet occurrence).ValidPeers ∧
        ∃ terms, (now.meet occurrence).peers.get? chain = some { peer with terms } := by
    rintro now occurrence ⟨valid, terms, found⟩
    obtain ⟨next, left, -⟩ := exists_terms_meet valid found occurrence
    exact ⟨validPeers_meet valid occurrence, next, left⟩
  exact (course_induction kept later ⟨valid, peer.terms, registered⟩).2

end Courses

section Runs

variable {before deployment : Deployment MemoryRouter}

theorem validPeers_after (valid : before.ValidPeers) (event : Event) :
    (before.after event).ValidPeers := by
  rw [after_eq_meet]
  exact validPeers_meet valid event.occurrence

theorem Reachable.validPeers (reachable : deployment.Reachable) : deployment.ValidPeers := by
  obtain ⟨settings, events, rfl⟩ := reachable
  rw [run_eq_course]
  exact validPeers_course settings _ _

theorem exists_peer_after (valid : before.ValidPeers) {chain : ChainId} (event : Event)
    (registered : ∃ peer, before.peers.get? chain = some peer) :
    ∃ peer, (before.after event).peers.get? chain = some peer := by
  obtain ⟨peer, known⟩ := registered
  obtain ⟨terms, found, -⟩ := exists_terms_meet valid known event.occurrence
  rw [after_eq_meet]
  exact ⟨_, found⟩

end Runs

section Fresh

variable {ρ : Type} [TokenRouter ρ] {settings : Settings} {router : ρ} {chain : ChainId}
  {peer : Peer}

/-- Over any router, whatever is asked for by whomever: every peer in the registry stands under its
own number, which is that of a foreign chain, at an address that is not zero, and its terms pass the
check that all prices are positive and no margin exceeds 100 percent. -/
theorem registered_peer_wellFormed {occurrences : List (Occurrence ρ)}
    (registered : (chain, peer) ∈ ((fresh settings router).course occurrences).peers.entries) :
    peer.chain = chain ∧ chain ≠ 0 ∧ chain ≠ settings.chain ∧ peer.address ≠ 0 ∧
      peer.terms.verify = .ok () ∧ peer.terms.Acceptable := by
  have found := Table.get?_eq_some_iff_mem.mpr registered
  obtain ⟨chain_eq, ⟨chain_ne, foreign⟩, address_ne, acceptable⟩ :=
    validPeers_course settings router occurrences chain peer found
  rw [settings_course] at foreign
  exact ⟨chain_eq, chain_ne, foreign, address_ne, RelayTerms.verify_eq_ok_iff.mpr acceptable,
    acceptable⟩

/-- Chains 2 and 3 get peers, the second one twice in a batch of governance. A batch of fee updates
passes through a base fee of zero, and another one that ends there is refused. -/
def registryCourse : List (Occurrence MemoryRouter) :=
  [ .asked (.install 11 12 13 14),
    .asked (.addPeer 12 2 22 ⟨5, 1, ⟨10⟩, 0, some ⟨⟨1⟩, 0⟩, ⟨10, 30⟩⟩),
    .moved fun router => router.insertFill 9 ⟨2, 22, [], .fastFill, 0, 4⟩,
    .asked (.executeGovernance 11
      [ .updateEndpoint ⟨3, 33⟩ ⟨6, ⟨1⟩, .zero, 0, .zero, .zero, .zero, 1⟩,
        .updateEndpoint ⟨3, 33⟩ ⟨7, ⟨2⟩, .zero, 0, .zero, .zero, .zero, 1⟩ ]),
    .asked (.applyFeeUpdates 13 [⟨2, .baseFee 0⟩, ⟨2, .baseFee 8⟩]),
    .asked (.applyFeeUpdates 13 [⟨2, .baseFee 9⟩, ⟨2, .baseFee 0⟩]) ]

theorem governed_peer_wellFormed :
    let now := (fresh (.standard 1) MemoryRouter.empty).course registryCourse
    let peer : Peer := ⟨3, 33, ⟨7, 1, ⟨0⟩, 0, some ⟨⟨2⟩, 0⟩, ⟨10, 30⟩⟩⟩
    now.peers.entries = [(2, ⟨2, 22, ⟨8, 1, ⟨10⟩, 0, some ⟨⟨1⟩, 0⟩, ⟨10, 30⟩⟩⟩), (3, peer)] ∧
      peer.chain = 3 ∧ (3 : ChainId) ≠ 0 ∧ (3 : ChainId) ≠ 1 ∧ peer.address ≠ 0 ∧
      peer.terms.verify = .ok () ∧ peer.terms.Acceptable := by
  intro now peer
  have listed : now.peers.entries =
      [(2, ⟨2, 22, ⟨8, 1, ⟨10⟩, 0, some ⟨⟨1⟩, 0⟩, ⟨10, 30⟩⟩⟩), (3, peer)] := rfl
  have registered : (3, peer) ∈ now.peers.entries := by simp [listed]
  exact ⟨listed, registered_peer_wellFormed registered⟩

/-- Over any router, whatever is asked for by whomever: a chain that has got a peer has one ever
after, and nothing of it but its terms is ever different. Of the terms, the time limits change at
occurrences only that set the terms of the chain as a whole, so no batch of fee updates and no batch
of governance changes them. -/
theorem registered_peer_pinned {past : List (Occurrence ρ)}
    (registered : ((fresh settings router).course past).peers.get? chain = some peer)
    (later : List (Occurrence ρ)) :
    ∃ terms, ((fresh settings router).course (past ++ later)).peers.get? chain =
        some { peer with terms } ∧
      ∀ occurrence next,
        ((fresh settings router).course (past ++ later ++ [occurrence])).peers.get? chain =
          some next →
        next.terms.swapTimeLimit ≠ terms.swapTimeLimit →
        ∃ operation, occurrence = .asked operation ∧ operation.SetsTerms chain next.terms := by
  have valid := validPeers_course settings router (past ++ later)
  have pinned := exists_terms_course (validPeers_course settings router past) registered later
  rw [← course_append] at pinned
  obtain ⟨terms, found⟩ := pinned
  refine ⟨terms, found, fun occurrence next left changed => ?_⟩
  obtain ⟨changedTerms, kept, limited⟩ := exists_terms_meet valid found occurrence
  rw [course_append] at left
  cases kept.symm.trans left
  exact limited.resolve_left changed

/-- Batches that would move peers are refused, whether the peers are registered or staged. One that
leaves the addresses alone is obeyed, and the owner sets other time limits. -/
def contestedCourse : List (Occurrence MemoryRouter) :=
  [ .asked (.executeGovernance 11
      [ .updateEndpoint ⟨2, 22⟩ ⟨5, ⟨1⟩, .zero, 0, .zero, ⟨10⟩, .zero, 1⟩,
        .updateEndpoint ⟨2, 66⟩ ⟨5, ⟨1⟩, .zero, 0, .zero, ⟨10⟩, .zero, 1⟩ ]),
    .asked (.executeGovernance 11
      [ .updateEndpoint ⟨4, 44⟩ ⟨5, ⟨1⟩, .zero, 0, .zero, ⟨10⟩, .zero, 1⟩,
        .updateEndpoint ⟨4, 66⟩ ⟨5, ⟨1⟩, .zero, 0, .zero, ⟨10⟩, .zero, 1⟩ ]),
    .asked (.updatePeer 11 2 66 ⟨5, 1, ⟨10⟩, 0, none, ⟨20, 60⟩⟩),
    .asked (.addPeer 11 2 66 ⟨5, 1, ⟨10⟩, 0, none, ⟨20, 60⟩⟩),
    .asked (.executeGovernance 11
      [.updateEndpoint ⟨2, 22⟩ ⟨4, ⟨1⟩, .zero, 0, .zero, ⟨10⟩, .zero, 1⟩]),
    .asked (.updatePeer 11 2 22 ⟨3, 1, ⟨10⟩, 0, none, ⟨20, 60⟩⟩) ]

theorem contestedCourse_pinned :
    let start := fresh (.standard 1) MemoryRouter.empty
    let peer : Peer := ⟨2, 22, ⟨8, 1, ⟨10⟩, 0, some ⟨⟨1⟩, 0⟩, ⟨10, 30⟩⟩⟩
    (start.course registryCourse).peers.get? 2 = some peer ∧
      (start.course (registryCourse ++ contestedCourse)).peers.get? 2 =
        some { peer with terms := ⟨3, 1, ⟨10⟩, 0, none, ⟨20, 60⟩⟩ } ∧
      (start.course (registryCourse ++ contestedCourse)).peers.get? 4 = none ∧
      ∃ terms, (start.course (registryCourse ++ contestedCourse)).peers.get? 2 =
          some { peer with terms } ∧
        ∀ occurrence next,
          (start.course (registryCourse ++ contestedCourse ++ [occurrence])).peers.get? 2 =
            some next →
          next.terms.swapTimeLimit ≠ terms.swapTimeLimit →
          ∃ operation, occurrence = .asked operation ∧ operation.SetsTerms 2 next.terms :=
  ⟨rfl, rfl, rfl, registered_peer_pinned rfl contestedCourse⟩

end Fresh

end Deployment
end SwapRelay
