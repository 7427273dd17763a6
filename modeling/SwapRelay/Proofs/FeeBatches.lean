import SwapRelay.Proofs.Atomicity
import SwapRelay.Proofs.FeeUpdates

/-!
# Batches of fee updates

A batch of fee updates comes apart into the updates of each chain (`updatesOn`): what it stages for a
chain, and whether it is refused there, depends on these alone and on the peer of the chain
(`FeeRevision`). So batches that differ in how the updates of several chains are interleaved do the
same, and updates that are accepted one at a time are accepted together.
-/

namespace SwapRelay

def ChainFeeUpdate.on? (chain : ChainId) (change : ChainFeeUpdate) : Option FeeUpdate :=
  if change.chain = chain then some change.update else none

/-- The updates of a chain in a batch, in their order. -/
def updatesOn (chain : ChainId) (changes : List ChainFeeUpdate) : List FeeUpdate :=
  changes.filterMap (·.on? chain)

section UpdatesOn

variable {chain : ChainId} {change : ChainFeeUpdate} {changes : List ChainFeeUpdate}

theorem updatesOn_cons_self (change : ChainFeeUpdate) (later : List ChainFeeUpdate) :
    updatesOn change.chain (change :: later) = change.update :: updatesOn change.chain later := by
  simp [updatesOn, ChainFeeUpdate.on?]

theorem updatesOn_cons_of_ne (other : change.chain ≠ chain) (later : List ChainFeeUpdate) :
    updatesOn chain (change :: later) = updatesOn chain later := by
  simp [updatesOn, ChainFeeUpdate.on?, other]

theorem updatesOn_append (chain : ChainId) (former latter : List ChainFeeUpdate) :
    updatesOn chain (former ++ latter) = updatesOn chain former ++ updatesOn chain latter :=
  List.filterMap_append

theorem mem_updatesOn_iff {update : FeeUpdate} :
    update ∈ updatesOn chain changes ↔ ∃ change ∈ changes, change.chain = chain ∧
      change.update = update := by
  simp [updatesOn, ChainFeeUpdate.on?]

theorem updatesOn_ne_nil_iff :
    updatesOn chain changes ≠ [] ↔ ∃ change ∈ changes, change.chain = chain := by
  simp [updatesOn, ChainFeeUpdate.on?]

end UpdatesOn

/-- What the updates of a chain make of its peer: nothing if there are none, and otherwise other
terms, which are acceptable. -/
inductive FeeRevision : List FeeUpdate → Option Peer → Option Peer → Prop
  | unnamed (peer? : Option Peer) : FeeRevision [] peer? peer?
  | revised {updates : List FeeUpdate} {peer : Peer} {terms : RelayTerms} (named : updates ≠ [])
      (applied : peer.terms.applyAll updates = .ok terms) (acceptable : terms.Acceptable) :
    FeeRevision updates (some peer) (some { peer with terms })

namespace FeeRevision

variable {former latter : List FeeUpdate} {before between after : Option Peer}

theorem eq (first : FeeRevision former before between) (second : FeeRevision former before after) :
    between = after := by
  cases first with
  | unnamed =>
    cases second with
    | unnamed => rfl
    | revised named => exact absurd rfl named
  | revised named applied acceptable =>
    cases second with
    | unnamed => exact absurd rfl named
    | revised named again =>
      cases applied.symm.trans again
      rfl

theorem append (first : FeeRevision former before between)
    (second : FeeRevision latter between after) : FeeRevision (former ++ latter) before after := by
  cases first with
  | unnamed => exact second
  | revised named applied acceptable =>
    cases second with
    | unnamed =>
      rw [List.append_nil]
      exact .revised named applied acceptable
    | revised _ reapplied acceptable =>
      refine .revised ?_ ?_ acceptable
      · simp [named]
      · rw [RelayTerms.applyAll_append_of_eq_ok applied]
        exact reapplied

theorem again (revision : FeeRevision former before after) : FeeRevision former after after := by
  cases revision with
  | unnamed => exact .unnamed _
  | revised named applied acceptable =>
    exact .revised named (RelayTerms.applyAll_again applied) acceptable

theorem exists_terms (named : former ≠ []) (revision : FeeRevision former before after) :
    ∃ peer terms, before = some peer ∧ peer.terms.applyAll former = .ok terms ∧
      terms.Acceptable ∧ after = some { peer with terms } := by
  cases revision with
  | unnamed => exact absurd rfl named
  | revised _ applied acceptable => exact ⟨_, _, rfl, applied, acceptable, rfl⟩

theorem exists_lastValues {peer : Peer} (revision : FeeRevision former (some peer) after) :
    ∃ terms, after = some { peer with terms } ∧ peer.terms.applyAll former = .ok terms ∧
      terms.swapTimeLimit = peer.terms.swapTimeLimit ∧
      ∀ field, terms.value? field = (lastValue? field former).or (peer.terms.value? field) := by
  cases revision with
  | unnamed => exact ⟨peer.terms, rfl, rfl, rfl, fun _ => rfl⟩
  | revised named applied acceptable =>
    exact ⟨_, rfl, applied, RelayTerms.swapTimeLimit_of_applyAll applied,
      RelayTerms.value?_of_applyAll applied⟩

theorem eq_none (revision : FeeRevision former none after) : after = none := by
  cases revision
  rfl

end FeeRevision

namespace Deployment

variable {ρ : Type} {deployment after : Deployment ρ} {signer : Address} {chain : ChainId}
  {changes : List ChainFeeUpdate} {updates : List FeeUpdate}

/-- The terms that a batch has staged for a chain, or else those of its peer. -/
def termsBehind (deployment : Deployment ρ) (chain : ChainId) :
    Option RelayTerms → Except SwapError RelayTerms
  | some terms => .ok terms
  | none => do return (← deployment.requirePeer chain).terms

/-- Stages one update of a chain, with nothing but what is staged for this chain in view. -/
def stageUpdate (deployment : Deployment ρ) (chain : ChainId) (staged? : Option RelayTerms)
    (update : FeeUpdate) : Except SwapError (Option RelayTerms) := do
  let terms ← deployment.termsBehind chain staged?
  return some (← terms.apply update)

section Chains

theorem stageUpdate_eq_ok_iff {staged? terms? : Option RelayTerms} {update : FeeUpdate} :
    deployment.stageUpdate chain staged? update = .ok terms? ↔
      ∃ terms changed, (staged? = some terms ∨ staged? = none ∧
          ∃ peer, deployment.peers.get? chain = some peer ∧ peer.terms = terms) ∧
        terms.apply update = .ok changed ∧ terms? = some changed := by
  have found (terms : RelayTerms) : deployment.termsBehind chain staged? = .ok terms ↔
      staged? = some terms ∨ staged? = none ∧
        ∃ peer, deployment.peers.get? chain = some peer ∧ peer.terms = terms := by
    cases staged? with
    | some staged => simp [termsBehind]
    | none =>
      simp only [termsBehind, bind_eq_ok_iff, requirePeer_eq_ok_iff, pure_eq_ok_iff, reduceCtorEq,
        false_or, true_and]
  simp only [stageUpdate, bind_eq_ok_iff, pure_eq_ok_iff, found, exists_and_left,
    @eq_comm _ _ terms?]

theorem stageFeeUpdate_eq_ok_iff_stageUpdate {staged next : StagedTerms} {change : ChainFeeUpdate} :
    deployment.stageFeeUpdate staged change = .ok next ↔
      ∃ terms, deployment.stageUpdate change.chain (staged.get? change.chain) change.update =
          .ok (some terms) ∧ next = staged.insert change.chain terms := by
  simp only [stageFeeUpdate_eq_ok_iff, termsDuring_eq_ok_iff, stageUpdate_eq_ok_iff]
  constructor
  · rintro ⟨terms, changed, found, applied, rfl⟩
    exact ⟨changed, ⟨terms, changed, found, applied, rfl⟩, rfl⟩
  · rintro ⟨changed, ⟨terms, _, found, applied, ⟨⟩⟩, rfl⟩
    exact ⟨terms, changed, found, applied, rfl⟩

/-- What a batch stages for a chain comes from the updates of this chain. -/
theorem get?_foldlM_stageFeeUpdate {staged last : StagedTerms}
    (agreed : changes.foldlM deployment.stageFeeUpdate staged = .ok last) (chain : ChainId) :
    (updatesOn chain changes).foldlM (deployment.stageUpdate chain) (staged.get? chain) =
      .ok (last.get? chain) := by
  induction changes generalizing staged with
  | nil =>
    cases agreed
    rfl
  | cons change later ih =>
    rw [List.foldlM_cons] at agreed
    obtain ⟨next, accepted, agreed⟩ := bind_eq_ok_iff.mp agreed
    obtain ⟨terms, first, rfl⟩ := stageFeeUpdate_eq_ok_iff_stageUpdate.mp accepted
    have others := ih agreed
    rw [Table.get?_insert] at others
    by_cases same : change.chain = chain
    · subst same
      rw [if_pos rfl] at others
      rw [updatesOn_cons_self, List.foldlM_cons, first]
      exact others
    · rw [if_neg (Ne.symm same)] at others
      rwa [updatesOn_cons_of_ne same]

theorem exists_foldlM_stageFeeUpdate {staged : StagedTerms}
    (agreed : ∀ chain, ∃ terms?, (updatesOn chain changes).foldlM (deployment.stageUpdate chain)
      (staged.get? chain) = .ok terms?) :
    ∃ last, changes.foldlM deployment.stageFeeUpdate staged = .ok last := by
  induction changes generalizing staged with
  | nil => exact ⟨staged, rfl⟩
  | cons change later ih =>
    obtain ⟨last?, here⟩ := agreed change.chain
    rw [updatesOn_cons_self, List.foldlM_cons] at here
    obtain ⟨next?, first, here⟩ := bind_eq_ok_iff.mp here
    obtain ⟨_, terms, -, -, rfl⟩ := stageUpdate_eq_ok_iff.mp first
    have accepted : deployment.stageFeeUpdate staged change =
        .ok (staged.insert change.chain terms) :=
      stageFeeUpdate_eq_ok_iff_stageUpdate.mpr ⟨terms, first, rfl⟩
    rw [List.foldlM_cons, accepted]
    refine ih fun chain => ?_
    rw [Table.get?_insert]
    split
    · rename_i same
      subst same
      exact ⟨last?, here⟩
    · rename_i other
      have others := agreed chain
      rwa [updatesOn_cons_of_ne (Ne.symm other)] at others

theorem foldlM_stageUpdate_some {terms : RelayTerms} {terms? : Option RelayTerms} :
    updates.foldlM (deployment.stageUpdate chain) (some terms) = .ok terms? ↔
      ∃ changed, terms.applyAll updates = .ok changed ∧ terms? = some changed := by
  induction updates generalizing terms with
  | nil => simp [RelayTerms.applyAll, @eq_comm _ _ terms?]
  | cons update later ih =>
    simp only [List.foldlM_cons, bind_eq_ok_iff, stageUpdate_eq_ok_iff,
      RelayTerms.applyAll_cons_eq_ok_iff]
    constructor
    · rintro ⟨_, ⟨_, next, found, applied, rfl⟩, others⟩
      obtain ⟨changed, applies, rfl⟩ := ih.mp others
      rcases found with same | ⟨missing, -⟩
      · cases same
        exact ⟨changed, ⟨next, applied, applies⟩, rfl⟩
      · cases missing
    · rintro ⟨changed, ⟨next, applied, others⟩, rfl⟩
      exact ⟨some next, ⟨terms, next, .inl rfl, applied, rfl⟩, ih.mpr ⟨changed, others, rfl⟩⟩

theorem foldlM_stageUpdate_none (named : updates ≠ []) {terms? : Option RelayTerms} :
    updates.foldlM (deployment.stageUpdate chain) none = .ok terms? ↔
      ∃ peer terms, deployment.peers.get? chain = some peer ∧
        peer.terms.applyAll updates = .ok terms ∧ terms? = some terms := by
  cases updates with
  | nil => exact absurd rfl named
  | cons update later =>
    rw [List.foldlM_cons, bind_eq_ok_iff]
    simp only [RelayTerms.applyAll_cons_eq_ok_iff]
    constructor
    · rintro ⟨next?, first, others⟩
      obtain ⟨_, next, found, applied, rfl⟩ := stageUpdate_eq_ok_iff.mp first
      obtain ⟨terms, applies, rfl⟩ := foldlM_stageUpdate_some.mp others
      rcases found with missing | ⟨-, peer, registered, rfl⟩
      · cases missing
      · exact ⟨peer, terms, registered, ⟨next, applied, applies⟩, rfl⟩
    · rintro ⟨peer, terms, registered, ⟨next, applied, others⟩, rfl⟩
      refine ⟨some next, stageUpdate_eq_ok_iff.mpr ?_,
        foldlM_stageUpdate_some.mpr ⟨terms, others, rfl⟩⟩
      exact ⟨_, next, .inr ⟨rfl, peer, registered, rfl⟩, applied, rfl⟩

end Chains

section Revisions

theorem feeRevision_of_stageFeeUpdates {staged : StagedTerms}
    (agreed : deployment.stageFeeUpdates changes = .ok staged) (chain : ChainId) :
    FeeRevision (updatesOn chain changes) (deployment.peers.get? chain)
      ((staged.entries.foldl setTerms deployment.peers).get? chain) := by
  have folded := (stageFeeUpdates_eq_ok_iff.mp agreed).1
  have here := get?_foldlM_stageFeeUpdate folded chain
  rw [Table.get?_foldl (fun terms => Option.map fun peer => { peer with terms }) get?_setTerms]
  rw [Table.get?_empty] at here
  by_cases named : updatesOn chain changes = []
  · rw [named] at here ⊢
    rw [← Except.ok.inj here]
    exact .unnamed _
  · obtain ⟨peer, terms, registered, applied, found⟩ := (foldlM_stageUpdate_none named).mp here
    rw [found, registered]
    exact .revised named applied (acceptable_of_stageFeeUpdates agreed found)

theorem exists_stageFeeUpdates
    (revised : ∀ chain, ∃ peer?, FeeRevision (updatesOn chain changes)
      (deployment.peers.get? chain) peer?) :
    ∃ staged, deployment.stageFeeUpdates changes = .ok staged := by
  have agreed (chain : ChainId) : ∃ terms?, (updatesOn chain changes).foldlM
      (deployment.stageUpdate chain) none = .ok terms? := by
    obtain ⟨peer?, revision⟩ := revised chain
    by_cases named : updatesOn chain changes = []
    · rw [named]
      exact ⟨none, rfl⟩
    · obtain ⟨peer, terms, registered, applied, -⟩ := revision.exists_terms named
      exact ⟨some terms, (foldlM_stageUpdate_none named).mpr ⟨peer, terms, registered, applied, rfl⟩⟩
  obtain ⟨last, folded⟩ : ∃ last, changes.foldlM deployment.stageFeeUpdate .empty = .ok last :=
    exists_foldlM_stageFeeUpdate agreed
  have verified (terms : RelayTerms) (listed : terms ∈ last.values) : terms.verify = .ok () := by
    obtain ⟨chain, found⟩ := Table.mem_values_iff.mp listed
    obtain ⟨peer?, revision⟩ := revised chain
    have here := get?_foldlM_stageFeeUpdate folded chain
    rw [Table.get?_empty, found] at here
    by_cases named : updatesOn chain changes = []
    · rw [named] at here
      cases here
    · obtain ⟨peer, _, registered, applied, ⟨⟩⟩ := (foldlM_stageUpdate_none named).mp here
      obtain ⟨_, accepted, same, reapplied, acceptable, -⟩ := revision.exists_terms named
      cases registered.symm.trans same
      cases applied.symm.trans reapplied
      exact RelayTerms.verify_eq_ok_iff.mpr acceptable
  exact ⟨last, stageFeeUpdates_eq_ok_iff.mpr ⟨folded, forM_eq_ok_iff.mpr verified⟩⟩

end Revisions

section Batches

def MayUpdateFees (deployment : Deployment ρ) (signer : Address) : Prop :=
  ∃ custodian ∈ deployment.custodian, signer = custodian.feeUpdater ∨ signer = custodian.owner ∨
    signer = custodian.assistant

theorem MayUpdateFees.of_peers (signed : deployment.MayUpdateFees signer)
    (same : after = { deployment with peers := after.peers }) : after.MayUpdateFees signer := by
  rw [same]
  exact signed

theorem perform_applyFeeUpdates_iff_feeRevision :
    deployment.perform (applyFeeUpdates signer changes) = (.ok (), after) ↔
      deployment.MayUpdateFees signer ∧ after = { deployment with peers := after.peers } ∧
        ∀ chain, FeeRevision (updatesOn chain changes) (deployment.peers.get? chain)
          (after.peers.get? chain) := by
  rw [perform_applyFeeUpdates_eq_ok_iff]
  constructor
  · rintro ⟨custodian, charged, signed, staged, agreed, rfl⟩
    exact ⟨⟨custodian, charged, signed⟩, rfl, feeRevision_of_stageFeeUpdates agreed⟩
  · rintro ⟨⟨custodian, charged, signed⟩, same, revised⟩
    obtain ⟨staged, agreed⟩ := exists_stageFeeUpdates fun chain => ⟨_, revised chain⟩
    have peers : after.peers = staged.entries.foldl setTerms deployment.peers :=
      Table.ext_get? fun chain => (revised chain).eq (feeRevision_of_stageFeeUpdates agreed chain)
    refine ⟨custodian, charged, signed, staged, agreed, ?_⟩
    rw [← peers]
    exact same

theorem exists_perform_applyFeeUpdates_iff :
    (∃ after, deployment.perform (applyFeeUpdates signer changes) = (.ok (), after)) ↔
      deployment.MayUpdateFees signer ∧ ∀ chain, ∃ peer?,
        FeeRevision (updatesOn chain changes) (deployment.peers.get? chain) peer? := by
  constructor
  · rintro ⟨after, accepted⟩
    obtain ⟨signed, -, revised⟩ := perform_applyFeeUpdates_iff_feeRevision.mp accepted
    exact ⟨signed, fun chain => ⟨_, revised chain⟩⟩
  · rintro ⟨⟨custodian, charged, signed⟩, revised⟩
    obtain ⟨staged, agreed⟩ := exists_stageFeeUpdates revised
    exact ⟨_, perform_applyFeeUpdates_eq_ok_iff.mpr
      ⟨custodian, charged, signed, staged, agreed, rfl⟩⟩

/-- The conditions under which a batch of fee updates is accepted. Only the terms that it ends with
have to be acceptable. -/
structure AdmitsFeeUpdates (deployment : Deployment ρ) (signer : Address)
    (changes : List ChainFeeUpdate) : Prop where
  signed : deployment.MayUpdateFees signer
  registered : ∀ change ∈ changes, deployment.peers.get? change.chain ≠ none
  supported : ∀ change ∈ changes, ¬ change.update.SetsThreshold
  priced : ∀ change ∈ changes, change.update.PricesGas → ∀ peer,
    deployment.peers.get? change.chain = some peer → peer.terms.evm ≠ none
  acceptable : ∀ change ∈ changes, ∀ peer terms,
    deployment.peers.get? change.chain = some peer →
    peer.terms.applyAll (updatesOn change.chain changes) = .ok terms → terms.verify = .ok ()

theorem AdmitsFeeUpdates.exists_feeRevision (admits : deployment.AdmitsFeeUpdates signer changes)
    (chain : ChainId) :
    ∃ peer?, FeeRevision (updatesOn chain changes) (deployment.peers.get? chain) peer? := by
  by_cases named : updatesOn chain changes = []
  · rw [named]
    exact ⟨_, .unnamed _⟩
  obtain ⟨change, listed, rfl⟩ := updatesOn_ne_nil_iff.mp named
  obtain ⟨peer, registered⟩ := Option.ne_none_iff_exists'.mp (admits.registered change listed)
  have applicable : ∀ update ∈ updatesOn change.chain changes,
      ¬ update.SetsThreshold ∧ (update.PricesGas → peer.terms.evm ≠ none) := by
    intro update found
    obtain ⟨other, listed, same, rfl⟩ := mem_updatesOn_iff.mp found
    rw [← same] at registered
    exact ⟨admits.supported other listed, fun prices =>
      admits.priced other listed prices peer registered⟩
  obtain ⟨terms, applied⟩ := RelayTerms.exists_applyAll_iff.mpr applicable
  have verified := admits.acceptable change listed peer terms registered applied
  rw [registered]
  exact ⟨_, .revised named applied (RelayTerms.verify_eq_ok_iff.mp verified)⟩

theorem admitsFeeUpdates_of_feeRevision (signed : deployment.MayUpdateFees signer)
    (revised : ∀ chain, ∃ peer?, FeeRevision (updatesOn chain changes)
      (deployment.peers.get? chain) peer?) : deployment.AdmitsFeeUpdates signer changes := by
  have settled : ∀ change ∈ changes, ∃ peer terms,
      deployment.peers.get? change.chain = some peer ∧
        peer.terms.applyAll (updatesOn change.chain changes) = .ok terms ∧ terms.Acceptable := by
    intro change listed
    obtain ⟨peer?, revision⟩ := revised change.chain
    have named := updatesOn_ne_nil_iff.mpr ⟨change, listed, rfl⟩
    obtain ⟨peer, terms, registered, applied, acceptable, -⟩ := revision.exists_terms named
    exact ⟨peer, terms, registered, applied, acceptable⟩
  have applicable : ∀ change ∈ changes, ∃ peer, deployment.peers.get? change.chain = some peer ∧
      ¬ change.update.SetsThreshold ∧ (change.update.PricesGas → peer.terms.evm ≠ none) := by
    intro change listed
    obtain ⟨peer, terms, registered, applied, -⟩ := settled change listed
    have found := mem_updatesOn_iff.mpr ⟨change, listed, rfl, rfl⟩
    exact ⟨peer, registered, RelayTerms.exists_applyAll_iff.mp ⟨terms, applied⟩ _ found⟩
  refine { signed, registered := ?registered, supported := ?supported, priced := ?priced,
           acceptable := ?acceptable }
  case registered =>
    intro change listed
    obtain ⟨peer, registered, -⟩ := applicable change listed
    exact Option.ne_none_iff_exists'.mpr ⟨peer, registered⟩
  case supported =>
    intro change listed
    obtain ⟨-, -, supported, -⟩ := applicable change listed
    exact supported
  case priced =>
    intro change listed prices peer known
    obtain ⟨_, registered, -, priced⟩ := applicable change listed
    cases registered.symm.trans known
    exact priced prices
  case acceptable =>
    intro change listed peer terms known reapplied
    obtain ⟨_, _, registered, applied, acceptable⟩ := settled change listed
    cases registered.symm.trans known
    cases applied.symm.trans reapplied
    exact RelayTerms.verify_eq_ok_iff.mpr acceptable

theorem perform_applyFeeUpdates_eq_ok_iff_admits :
    (∃ after, deployment.perform (applyFeeUpdates signer changes) = (.ok (), after)) ↔
      deployment.AdmitsFeeUpdates signer changes := by
  rw [exists_perform_applyFeeUpdates_iff]
  constructor
  · rintro ⟨signed, revised⟩
    exact admitsFeeUpdates_of_feeRevision signed revised
  · intro admits
    exact ⟨admits.signed, admits.exists_feeRevision⟩

theorem perform_applyFeeUpdates_congr {others : List ChainFeeUpdate}
    (same : ∀ chain, updatesOn chain others = updatesOn chain changes) :
    (∃ after, deployment.perform (applyFeeUpdates signer changes) = (.ok (), after) ∧
        deployment.perform (applyFeeUpdates signer others) = (.ok (), after)) ∨
      ∃ fault otherFault,
        deployment.perform (applyFeeUpdates signer changes) = (.error fault, deployment) ∧
        deployment.perform (applyFeeUpdates signer others) = (.error otherFault, deployment) := by
  have alike (after : Deployment ρ) :
      deployment.perform (applyFeeUpdates signer others) = (.ok (), after) ↔
        deployment.perform (applyFeeUpdates signer changes) = (.ok (), after) := by
    simp only [perform_applyFeeUpdates_iff_feeRevision, same]
  rcases (keptOnRefusal_applyFeeUpdates signer changes).accepted_or_refused with
    ⟨_, after, accepted⟩ | ⟨fault, refused⟩
  · exact .inl ⟨after, accepted, (alike after).mpr accepted⟩
  · rcases (keptOnRefusal_applyFeeUpdates signer others).accepted_or_refused with
      ⟨_, after, accepted⟩ | ⟨otherFault, otherRefused⟩
    · cases refused.symm.trans ((alike after).mp accepted)
    · exact .inr ⟨fault, otherFault, refused, otherRefused⟩

end Batches

section Singly

/-- Applies batches of one update each, up to the first that is refused. -/
def applySingly (signer : Address) (changes : List ChainFeeUpdate) : Action ρ Unit :=
  changes.forM fun change => applyFeeUpdates signer [change]

theorem applySingly_cons (change : ChainFeeUpdate) (later : List ChainFeeUpdate) :
    applySingly (ρ := ρ) signer (change :: later) =
      applyFeeUpdates signer [change] >>= fun _ => applySingly signer later := rfl

theorem mayUpdateFees_of_applySingly (named : changes ≠ [])
    (accepted : deployment.perform (applySingly signer changes) = (.ok (), after)) :
    deployment.MayUpdateFees signer := by
  cases changes with
  | nil => exact absurd rfl named
  | cons change later =>
    rw [applySingly_cons, perform_bind_eq_ok_iff] at accepted
    obtain ⟨_, between, single, -⟩ := accepted
    exact (perform_applyFeeUpdates_iff_feeRevision.mp single).1

theorem perform_applyFeeUpdates_of_applySingly (signed : deployment.MayUpdateFees signer)
    (accepted : deployment.perform (applySingly signer changes) = (.ok (), after)) :
    deployment.perform (applyFeeUpdates signer changes) = (.ok (), after) := by
  rw [perform_applyFeeUpdates_iff_feeRevision]
  induction changes generalizing deployment with
  | nil =>
    cases accepted
    exact ⟨signed, rfl, fun chain => .unnamed _⟩
  | cons change later ih =>
    rw [applySingly_cons, perform_bind_eq_ok_iff] at accepted
    obtain ⟨_, between, single, accepted⟩ := accepted
    obtain ⟨-, same, revised⟩ := perform_applyFeeUpdates_iff_feeRevision.mp single
    obtain ⟨-, others, revisedThen⟩ := ih (signed.of_peers same) accepted
    refine ⟨signed, ?_, fun chain => ?_⟩
    · rw [same] at others
      exact others
    · have both := (revised chain).append (revisedThen chain)
      rwa [← updatesOn_append] at both

end Singly

/-- What a batch of fee updates means. It is accepted exactly under the conditions of
`AdmitsFeeUpdates`. Then every chain that is named gets what its own updates make of its terms, so
every price and margin has the last value that the batch has for it, and nothing else changes. Batches
with the same updates for every chain do the same, however these are interleaved. A batch does what
its updates do one at a time if these are all accepted; if there are none, the signer still needs the
right to sign. -/
theorem fee_batch_meaning (deployment : Deployment ρ) (signer : Address)
    (changes : List ChainFeeUpdate) :
    let batch := deployment.perform (applyFeeUpdates signer changes)
    (batch.1 = .ok () ↔ deployment.AdmitsFeeUpdates signer changes) ∧
    (∀ after, batch = (.ok (), after) → after = { deployment with peers := after.peers } ∧
      ∀ chain, match deployment.peers.get? chain with
        | none => after.peers.get? chain = none
        | some peer => ∃ terms, after.peers.get? chain = some { peer with terms } ∧
          peer.terms.applyAll (updatesOn chain changes) = .ok terms ∧
          terms.swapTimeLimit = peer.terms.swapTimeLimit ∧ ∀ field, terms.value? field =
            (lastValue? field (updatesOn chain changes)).or (peer.terms.value? field)) ∧
    (∀ others, (∀ chain, updatesOn chain others = updatesOn chain changes) →
      let other := deployment.perform (applyFeeUpdates signer others)
      (∃ after, batch = (.ok (), after) ∧ other = (.ok (), after)) ∨
        ∃ fault otherFault, batch = (.error fault, deployment) ∧
          other = (.error otherFault, deployment)) ∧
    ∀ after, changes ≠ [] ∨ deployment.MayUpdateFees signer →
      deployment.perform (applySingly signer changes) = (.ok (), after) →
      batch = (.ok (), after) := by
  intro batch
  refine ⟨?_, fun after accepted => ?_, fun others same => ?_, fun after signed singly => ?_⟩
  · rw [← perform_applyFeeUpdates_eq_ok_iff_admits]
    constructor
    · intro accepted
      exact ⟨batch.2, Prod.ext accepted rfl⟩
    · rintro ⟨after, accepted⟩
      exact congrArg Prod.fst accepted
  · obtain ⟨-, same, revised⟩ := perform_applyFeeUpdates_iff_feeRevision.mp accepted
    refine ⟨same, fun chain => ?_⟩
    have revision := revised chain
    cases registered : deployment.peers.get? chain with
    | none =>
      rw [registered] at revision
      exact revision.eq_none
    | some peer =>
      rw [registered] at revision
      exact revision.exists_lastValues
  · exact perform_applyFeeUpdates_congr same
  · have signed : deployment.MayUpdateFees signer :=
      signed.elim (fun named => mayUpdateFees_of_applySingly named singly) id
    exact perform_applyFeeUpdates_of_applySingly signed singly

/-- A base fee of chain 2 that is zero at first, with an update of chain 3 in between. -/
def interleavedUpdates : List ChainFeeUpdate :=
  [⟨2, .baseFee 0⟩, ⟨3, .gasPrice 7 ⟨5⟩⟩, ⟨2, .baseFee 9⟩]

/-- The same updates, but chain by chain. -/
def groupedUpdates : List ChainFeeUpdate :=
  [⟨3, .gasPrice 7 ⟨5⟩⟩, ⟨2, .baseFee 0⟩, ⟨2, .baseFee 9⟩]

theorem updatesOn_groupedUpdates (chain : ChainId) :
    updatesOn chain groupedUpdates = updatesOn chain interleavedUpdates := by
  by_cases second : (2 : ChainId) = chain
  · subst second
    rfl
  · rw [interleavedUpdates, groupedUpdates]
    by_cases third : (3 : ChainId) = chain <;>
      simp [updatesOn, ChainFeeUpdate.on?, second, third]

theorem interleavedUpdates_meaning :
    let start := (fresh (.standard 1) MemoryRouter.empty).course registryCourse
    start.AdmitsFeeUpdates 13 interleavedUpdates ∧
    (∃ after, start.perform (applyFeeUpdates 13 interleavedUpdates) = (.ok (), after) ∧
      start.perform (applyFeeUpdates 13 groupedUpdates) = (.ok (), after) ∧
      ∃ peer, after.peers.get? 2 = some peer ∧ peer.terms.value? .baseFee = some 9) ∧
    ∃ after, start.perform (applySingly 13 interleavedUpdates.tail) = (.ok (), after) ∧
      start.perform (applyFeeUpdates 13 interleavedUpdates.tail) = (.ok (), after) := by
  intro start
  obtain ⟨admitted, written, interleaved, -⟩ := fee_batch_meaning start 13 interleavedUpdates
  obtain ⟨-, -, -, together⟩ := fee_batch_meaning start 13 interleavedUpdates.tail
  have done : (start.perform (applyFeeUpdates 13 interleavedUpdates)).1 = .ok () := rfl
  have singly : start.perform (applySingly 13 interleavedUpdates.tail) =
    (.ok (), (start.perform (applySingly 13 interleavedUpdates.tail)).2) := Prod.ext rfl rfl
  refine ⟨admitted.mp done, ?_, _, singly, together _ (.inl (List.cons_ne_nil _ _)) singly⟩
  rcases interleaved groupedUpdates updatesOn_groupedUpdates with ⟨after, first, second⟩ | refused
  · obtain ⟨terms, found, -, -, values⟩ := (written after first).2 2
    exact ⟨after, first, second, _, found, values .baseFee⟩
  · obtain ⟨fault, _, refused, -⟩ := refused
    rw [refused] at done
    cases done

/-- The condition on empty batches is needed: nothing is refused in applying none of them, but the
single batch is refused for its signer. -/
theorem empty_batch_needs_signer :
    let start := (fresh (.standard 1) MemoryRouter.empty).run [.asked (.install 11 12 13 14)]
    start.Reachable ∧ start.perform (applySingly 99 []) = (.ok (), start) ∧
      start.perform (applyFeeUpdates 99 []) = (.error .invalidFeeUpdater, start) ∧
      ¬ ∀ signer changes after, start.perform (applySingly signer changes) = (.ok (), after) →
        start.perform (applyFeeUpdates signer changes) = (.ok (), after) := by
  intro start
  have refused : start.perform (applyFeeUpdates 99 []) = (.error .invalidFeeUpdater, start) := rfl
  refine ⟨⟨_, _, rfl⟩, rfl, refused, fun always => ?_⟩
  cases refused.symm.trans (always 99 [] start rfl)

end Deployment
end SwapRelay
