import SwapRelay.Proofs.Registry

/-!
# What the roles may change

Roles move while a deployment is in use: the assistant names another fee updater, and one account
can hold several of them. So a signer is judged by the roles that it holds when it signs. Only the
owner and the named successor reach the ownership and the assistant, the assistant reaches all the
rest of what is administered, and the fee updater reaches the terms of peers that are registered
already. Transfers reach nothing of it.
-/

namespace SwapRelay

/-- What an account can be to a deployment when it signs. -/
inductive Role where
  | owner
  /-- The account that the owner has named. -/
  | successor
  | assistant
  | feeUpdater
  deriving DecidableEq, Repr

namespace Custodian

def holder? (custodian : Custodian) : Role → Option Address
  | .owner => some custodian.owner
  | .successor => custodian.pendingOwner
  | .assistant => some custodian.assistant
  | .feeUpdater => some custodian.feeUpdater

/-- The owner, the named successor and the assistant. -/
def ownership (custodian : Custodian) : Address × Option Address × Address :=
  (custodian.owner, custodian.pendingOwner, custodian.assistant)

end Custodian

/-- Where a peer is. This is all of it but its terms. -/
def Peer.endpoint (peer : Peer) : Endpoint := ⟨peer.chain, peer.address⟩

namespace Operation

def administrator? : Operation → Option Address
  | .install signer _ _ _ | .submitOwnershipTransfer signer _ | .confirmOwnershipTransfer signer
  | .cancelOwnershipTransfer signer | .updateAssistant signer _ | .updateFeeUpdater signer _
  | .updateFeeRecipient signer _ | .addPeer signer _ _ _ | .updatePeer signer _ _ _
  | .updateTerms signer _ _ | .applyFeeUpdates signer _ | .executeGovernance signer _ => some signer
  | _ => none

/-- The operation is one of administration, and its signer has the role. -/
def SignedAs (operation : Operation) (custodian : Custodian) (role : Role) : Prop :=
  ∃ signer ∈ operation.administrator?, custodian.holder? role = some signer

instance (operation : Operation) (custodian : Custodian) (role : Role) :
    Decidable (operation.SignedAs custodian role) :=
  -- The instance is named, since the search finds one that tries all addresses.
  Option.decidableExistsMem operation.administrator?

end Operation

theorem Appointment.signedAs {operation : Operation} {former latter : Custodian}
    (appointment : Appointment operation (some former) latter) :
    operation.SignedAs former .owner ∨ operation.SignedAs former .successor ∨
      operation.SignedAs former .assistant ∧ latter.ownership = former.ownership := by
  cases appointment with
  | submit | cancel | assistant => exact .inl ⟨_, rfl, rfl⟩
  | confirm pending => exact .inr (.inl ⟨_, rfl, pending⟩)
  | feeUpdater admin | feeRecipient admin =>
    rcases admin with rfl | rfl
    · exact .inl ⟨_, rfl, rfl⟩
    · exact .inr (.inr ⟨⟨_, rfl, rfl⟩, rfl⟩)

namespace Deployment

variable {ρ : Type}

def endpoint? (deployment : Deployment ρ) (chain : ChainId) : Option Endpoint :=
  (deployment.peers.get? chain).map Peer.endpoint

theorem endpoint_eq_of_peers_eq {before after : Deployment ρ}
    (same : after.peers = before.peers) : after.endpoint? = before.endpoint? := by
  funext chain
  rw [endpoint?, same, endpoint?]

section Registrations

variable {before : Deployment ρ} {custodian : Custodian} {operation : Operation}

theorem endpoint_insert_terms {named : ChainId} {peer : Peer}
    (known : before.peers.get? named = some peer) (terms : RelayTerms) (chain : ChainId) :
    ((before.peers.insert named { peer with terms }).get? chain).map Peer.endpoint =
      before.endpoint? chain := by
  rw [Table.get?_insert]
  split
  · rename_i same
    rw [endpoint?, same, known]
    rfl
  · rfl

theorem endpoint_foldl_setTerms (staged : StagedTerms) (chain : ChainId) :
    ((staged.entries.foldl setTerms before.peers).get? chain).map Peer.endpoint =
      before.endpoint? chain := by
  rw [Table.get?_foldl (fun terms => Option.map fun peer => { peer with terms }) get?_setTerms]
  cases staged.get? chain with
  | none => rfl
  | some terms => exact Option.map_map ..

theorem Registration.signedAs {peers : Table 2 Peer}
    (registration : before.Registration custodian operation peers) :
    operation.SignedAs custodian .owner ∨ operation.SignedAs custodian .assistant ∨
      operation.SignedAs custodian .feeUpdater ∧
        ∀ chain, (peers.get? chain).map Peer.endpoint = before.endpoint? chain := by
  cases registration with
  | add admin =>
    rcases admin with rfl | rfl
    · exact .inl ⟨_, rfl, rfl⟩
    · exact .inr (.inl ⟨_, rfl, rfl⟩)
  | peer | governance => exact .inl ⟨_, rfl, rfl⟩
  | terms updater acceptable known =>
    rcases updater with rfl | rfl | rfl
    · exact .inr (.inr ⟨⟨_, rfl, rfl⟩, endpoint_insert_terms known _⟩)
    · exact .inl ⟨_, rfl, rfl⟩
    · exact .inr (.inl ⟨_, rfl, rfl⟩)
  | feeUpdates updater agreed =>
    rcases updater with rfl | rfl | rfl
    · exact .inr (.inr ⟨⟨_, rfl, rfl⟩, endpoint_foldl_setTerms _⟩)
    · exact .inl ⟨_, rfl, rfl⟩
    · exact .inr (.inl ⟨_, rfl, rfl⟩)

end Registrations

def Turn.SignedAs (turn : Turn ρ) (role : Role) : Prop :=
  ∃ operation ∈ turn.occurrence.operation?, ∃ custodian ∈ turn.before.custodian,
    operation.SignedAs custodian role

instance (turn : Turn ρ) (role : Role) : Decidable (turn.SignedAs role) :=
  Option.decidableExistsMem turn.occurrence.operation?

variable [TokenRouter ρ]

namespace Turn

/-- What a turn changes, by the role of whoever signs. -/
inductive Confined (turn : Turn ρ) : Prop
  | owner (signed : turn.SignedAs .owner)
  | successor (signed : turn.SignedAs .successor)
  | assistant (signed : turn.SignedAs .assistant)
      (kept : turn.after.custodian.map Custodian.ownership =
        turn.before.custodian.map Custodian.ownership)
  | feeUpdater (signed : turn.SignedAs .feeUpdater)
      (charged : turn.after.custodian = turn.before.custodian)
      (kept : turn.after.endpoint? = turn.before.endpoint?)
  | nobody (kept : turn.after.administered = turn.before.administered)

/-- Once somebody is in charge, nobody exceeds a role. -/
theorem confined {turn : Turn ρ} {custodian : Custodian}
    (charged : turn.before.custodian = some custodian) : turn.Confined := by
  rcases turn.before.meet_cases turn.occurrence with ⟨operation, asked, administers⟩ | same
  · have signed {role : Role} (signed : operation.SignedAs custodian role) : turn.SignedAs role :=
      ⟨operation, by rw [asked]; rfl, custodian, charged, signed⟩
    change turn.before.Administers operation turn.after at administers
    have reached : ∀ after, turn.before.Administers operation after → turn.after = after →
        turn.Confined := by
      intro after administers same
      cases administers with
      | appointed appointment =>
        rw [charged] at appointment
        rcases appointment.signedAs with owner | successor | ⟨assistant, kept⟩
        · exact .owner (signed owner)
        · exact .successor (signed successor)
        · refine .assistant (signed assistant) ?_
          rw [same, charged]
          exact congrArg some kept
      | registered known registration =>
        cases charged.symm.trans known
        rcases registration.signedAs with owner | assistant | ⟨feeUpdater, kept⟩
        · exact .owner (signed owner)
        · refine .assistant (signed assistant) ?_
          rw [same]
        · refine .feeUpdater (signed feeUpdater) ?_ ?_
          · rw [same]
          · rw [same]
            exact funext kept
    exact reached _ administers rfl
  · exact .nobody same

end Turn

section Courses

variable {deployment : Deployment ρ} {custodian : Custodian} {later : List (Occurrence ρ)}

/-- No turn of the course is signed by the account that has the role by then. -/
def Unsigned (deployment : Deployment ρ) (later : List (Occurrence ρ)) (role : Role) : Prop :=
  ∀ turn ∈ deployment.turns later, ¬ turn.SignedAs role

instance (role : Role) : Decidable (deployment.Unsigned later role) :=
  inferInstanceAs (Decidable (∀ turn ∈ deployment.turns later, _))

theorem ownership_course (charged : deployment.custodian = some custodian)
    (owner : deployment.Unsigned later .owner) (successor : deployment.Unsigned later .successor) :
    (deployment.course later).custodian.map Custodian.ownership = some custodian.ownership := by
  refine turns_induction
    (P := fun now => now.custodian.map Custodian.ownership = some custodian.ownership) ?_
    (congrArg (Option.map Custodian.ownership) charged)
  intro turn mem before
  obtain ⟨now, found, -⟩ := Option.map_eq_some_iff.mp before
  cases Turn.confined found with
  | owner signed => exact absurd signed (owner turn mem)
  | successor signed => exact absurd signed (successor turn mem)
  | assistant signed kept => exact kept.trans before
  | feeUpdater signed same kept =>
    rw [same]
    exact before
  | nobody kept =>
    rw [custodian_eq_of_administered_eq kept]
    exact before

theorem endpoints_course (charged : deployment.custodian = some custodian)
    (owner : deployment.Unsigned later .owner) (successor : deployment.Unsigned later .successor)
    (assistant : deployment.Unsigned later .assistant) :
    (deployment.course later).custodian = some custodian ∧
      (deployment.course later).endpoint? = deployment.endpoint? := by
  refine turns_induction
    (P := fun now => now.custodian = some custodian ∧ now.endpoint? = deployment.endpoint?) ?_
    ⟨charged, rfl⟩
  rintro turn mem ⟨charged, located⟩
  cases Turn.confined charged with
  | owner signed => exact absurd signed (owner turn mem)
  | successor signed => exact absurd signed (successor turn mem)
  | assistant signed kept => exact absurd signed (assistant turn mem)
  | feeUpdater signed same kept => exact ⟨same.trans charged, kept.trans located⟩
  | nobody kept =>
    refine ⟨(custodian_eq_of_administered_eq kept).trans charged, ?_⟩
    exact (endpoint_eq_of_peers_eq (peers_eq_of_administered_eq kept)).trans located

theorem administered_course (charged : deployment.custodian = some custodian)
    (unsigned : ∀ role, deployment.Unsigned later role) :
    (deployment.course later).administered = deployment.administered := by
  refine turns_induction (P := fun now => now.administered = deployment.administered) ?_ rfl
  intro turn mem before
  have found := (custodian_eq_of_administered_eq before).trans charged
  cases Turn.confined found with
  | owner signed | successor signed | assistant signed | feeUpdater signed =>
    exact absurd signed (unsigned _ turn mem)
  | nobody kept => exact kept.trans before

/-- In a course of any length, whatever else is asked for by whomever: (1) without the signatures of
those who are owner or named successor by then, owner, successor and assistant stay; (2) if the
assistant does not sign either, then the fee updater, the fee recipient, the registered chains and
all of their peers but the terms stay; (3) and if the fee updater does not sign either, then all
accounts in charge and all peers stay. -/
theorem privileges_contained (charged : deployment.custodian = some custodian)
    (later : List (Occurrence ρ)) (owner : deployment.Unsigned later .owner)
    (successor : deployment.Unsigned later .successor) :
    let now := deployment.course later
    ∃ next, now.custodian = some next ∧
      (next.owner = custodian.owner ∧ next.pendingOwner = custodian.pendingOwner ∧
        next.assistant = custodian.assistant) ∧
      (deployment.Unsigned later .assistant →
        (next.feeUpdater = custodian.feeUpdater ∧ next.feeRecipient = custodian.feeRecipient ∧
          ∀ chain, (now.peers.get? chain).map Peer.endpoint =
            (deployment.peers.get? chain).map Peer.endpoint) ∧
        (deployment.Unsigned later .feeUpdater →
          next = custodian ∧ now.peers = deployment.peers)) := by
  intro now
  obtain ⟨next, found, same⟩ :=
    Option.map_eq_some_iff.mp (ownership_course charged owner successor)
  have kept : next.owner = custodian.owner ∧ next.pendingOwner = custodian.pendingOwner ∧
      next.assistant = custodian.assistant := by
    simpa [Custodian.ownership] using same
  refine ⟨next, found, kept, fun assistant => ?_⟩
  obtain ⟨still, located⟩ := endpoints_course charged owner successor assistant
  cases found.symm.trans still
  refine ⟨⟨rfl, rfl, fun chain => congrFun located chain⟩, fun feeUpdater => ⟨rfl, ?_⟩⟩
  refine peers_eq_of_administered_eq (administered_course charged fun role => ?_)
  cases role with
  | owner => exact owner
  | successor => exact successor
  | assistant => exact assistant
  | feeUpdater => exact feeUpdater

end Courses

section Intrusions

/-- Account 11 has named account 16 as its successor, and chains 2 and 3 have peers. -/
def succession : List (Occurrence MemoryRouter) :=
  registryCourse ++ [.asked (.submitOwnershipTransfer 11 16)]

/-- Account 9, which has no role, tries to take one, and stages a transfer. -/
def intrusion : List (Occurrence MemoryRouter) :=
  [ .asked (.install 9 9 9 9),
    .asked (.confirmOwnershipTransfer 9),
    .asked (.updateTerms 9 2 ⟨1, 1, ⟨10⟩, 0, none, ⟨10, 30⟩⟩),
    .asked (.stageOutbound ⟨9, 9, 4, 100, true, 2, 7, none, none⟩),
    .moved fun router => router.insertFill 9 ⟨2, 22, [], .fastFill, 0, 4⟩,
    .asked (.updateFeeRecipient 9 9) ]

def repricing : List (Occurrence MemoryRouter) :=
  intrusion ++
    [ .asked (.applyFeeUpdates 13 [⟨2, .baseFee 6⟩]),
      .asked (.addPeer 13 4 44 ⟨1, 1, ⟨10⟩, 0, none, ⟨10, 30⟩⟩) ]

/-- The assistant makes account 9 the fee updater, which goes on trying. -/
def promotion : List (Occurrence MemoryRouter) :=
  repricing ++
    [ .asked (.updateFeeUpdater 12 9),
      .asked (.updateTerms 9 2 ⟨1, 1, ⟨10⟩, 0, none, ⟨10, 30⟩⟩),
      .asked (.updateAssistant 9 9) ]

/-- Account 9 changes nothing that is administered by itself, the fee updater leaves the peers where
they are, and the assistant cannot make account 9 more than a fee updater. -/
theorem intrusions_contained :
    let start := (fresh (.standard 1) MemoryRouter.empty).course succession
    let custodian : Custodian := ⟨11, some 16, 12, 13, 14⟩
    start.custodian = some custodian ∧
      (start.course intrusion).custodian = some custodian ∧
      (start.course intrusion).peers = start.peers ∧
      (∀ chain, ((start.course repricing).peers.get? chain).map Peer.endpoint =
        (start.peers.get? chain).map Peer.endpoint) ∧
      (start.course repricing).peers ≠ start.peers ∧
      ∃ next, (start.course promotion).custodian = some next ∧ next.feeUpdater = 9 ∧
        next.owner = 11 ∧ next.pendingOwner = some 16 ∧ next.assistant = 12 := by
  intro start custodian
  have charged : start.custodian = some custodian := rfl
  obtain ⟨_, intruded, -, unassisted⟩ := privileges_contained charged intrusion
    (by decide +kernel) (by decide +kernel)
  obtain ⟨-, unpriced⟩ := unassisted (by decide +kernel)
  obtain ⟨rfl, peers⟩ := unpriced (by decide +kernel)
  obtain ⟨_, -, -, unassisted⟩ := privileges_contained charged repricing
    (by decide +kernel) (by decide +kernel)
  obtain ⟨⟨-, -, located⟩, -⟩ := unassisted (by decide +kernel)
  obtain ⟨next, promoted, kept, -⟩ := privileges_contained charged promotion
    (by decide +kernel) (by decide +kernel)
  have updater : (start.course promotion).custodian.map Custodian.feeUpdater = some 9 := by
    decide +kernel
  rw [promoted] at updater
  exact ⟨charged, intruded, peers, located, by decide +kernel, next, promoted,
    Option.some.inj updater, kept⟩

end Intrusions
end Deployment
end SwapRelay
