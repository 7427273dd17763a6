import SwapRelay.Proofs.Courses
import SwapRelay.Proofs.Invariants
import SwapRelay.Proofs.Quotes

/-!
# Accounts in charge

Who is in charge of a deployment. None of the accounts is ever zero, a named successor is somebody
else than the owner, and accounts in charge are replaced but never missing. Before there are any,
nothing is registered, staged or ordered; so a relay that finds its peer also finds the account that
its fee goes to.
-/

namespace SwapRelay

/-- No account is zero, and the successor, if one is named, is not the owner. -/
structure Custodian.Proper (custodian : Custodian) : Prop where
  owner_ne : custodian.owner ≠ 0
  assistant_ne : custodian.assistant ≠ 0
  feeUpdater_ne : custodian.feeUpdater ≠ 0
  feeRecipient_ne : custodian.feeRecipient ≠ 0
  successor_ne : ∀ successor, custodian.pendingOwner = some successor →
    successor ≠ 0 ∧ successor ≠ custodian.owner

/-- The owner changes only by a confirmation, which leaves no successor behind. -/
theorem Appointment.proper {operation : Operation} {before? : Option Custodian}
    {after : Custodian} (appointment : Appointment operation before? after)
    (proper : ∀ before, before? = some before → before.Proper) : after.Proper := by
  cases appointment with
  | install owner_ne assistant_ne feeUpdater_ne feeRecipient_ne =>
    exact ⟨owner_ne, assistant_ne, feeUpdater_ne, feeRecipient_ne, nofun⟩
  | submit newOwner_ne newOwner_ne_owner =>
    obtain ⟨owner, assistant, feeUpdater, feeRecipient, -⟩ := proper _ rfl
    refine ⟨owner, assistant, feeUpdater, feeRecipient, ?_⟩
    rintro _ ⟨⟩
    exact ⟨newOwner_ne, newOwner_ne_owner⟩
  | confirm pending =>
    obtain ⟨-, assistant, feeUpdater, feeRecipient, successor⟩ := proper _ rfl
    exact ⟨(successor _ pending).1, assistant, feeUpdater, feeRecipient, nofun⟩
  | cancel =>
    obtain ⟨owner, assistant, feeUpdater, feeRecipient, -⟩ := proper _ rfl
    exact ⟨owner, assistant, feeUpdater, feeRecipient, nofun⟩
  | assistant assistant_ne =>
    obtain ⟨owner, -, feeUpdater, feeRecipient, successor⟩ := proper _ rfl
    exact ⟨owner, assistant_ne, feeUpdater, feeRecipient, successor⟩
  | feeUpdater admin feeUpdater_ne =>
    obtain ⟨owner, assistant, -, feeRecipient, successor⟩ := proper _ rfl
    exact ⟨owner, assistant, feeUpdater_ne, feeRecipient, successor⟩
  | feeRecipient admin feeRecipient_ne =>
    obtain ⟨owner, assistant, feeUpdater, -, successor⟩ := proper _ rfl
    exact ⟨owner, assistant, feeUpdater, feeRecipient_ne, successor⟩

namespace Deployment

section Courses

variable {ρ : Type} [TokenRouter ρ]

theorem appointment_meet (before : Deployment ρ) (occurrence : Occurrence ρ) :
    (∃ operation custodian, Appointment operation before.custodian custodian ∧
      (before.meet occurrence).custodian = some custodian) ∨
      (before.meet occurrence).custodian = before.custodian := by
  rcases before.meet_cases occurrence with ⟨operation, -, administers⟩ | same
  · generalize before.meet occurrence = after at administers
    cases administers with
    | appointed appointment => exact .inl ⟨operation, _, appointment, rfl⟩
    | registered charged registration => exact .inr rfl
  · exact .inr (custodian_eq_of_administered_eq same)

theorem proper_course (settings : Settings) (router : ρ) (occurrences : List (Occurrence ρ)) :
    ∀ custodian, ((fresh settings router).course occurrences).custodian = some custodian →
      custodian.Proper := by
  refine course_induction (P := fun now => ∀ custodian, now.custodian = some custodian →
    custodian.Proper) ?_ occurrences fun _ => nofun
  intro before occurrence proper custodian charged
  rcases before.appointment_meet occurrence with ⟨operation, next, appointment, found⟩ | same
  · cases found.symm.trans charged
    exact appointment.proper proper
  · exact proper custodian (same.symm.trans charged)

theorem charged_course {deployment : Deployment ρ} {custodian : Custodian}
    (charged : deployment.custodian = some custodian) (later : List (Occurrence ρ)) :
    ∃ next, (deployment.course later).custodian = some next := by
  refine course_induction (P := fun now => ∃ next, now.custodian = some next) ?_ later ⟨_, charged⟩
  rintro before occurrence ⟨earlier, charged⟩
  rcases before.appointment_meet occurrence with ⟨operation, next, appointment, found⟩ | same
  · exact ⟨next, found⟩
  · exact ⟨earlier, same.trans charged⟩

theorem charged_of_registered {settings : Settings} {router : ρ} {occurrences : List (Occurrence ρ)}
    {chain : ChainId} {peer : Peer}
    (registered : ((fresh settings router).course occurrences).peers.get? chain = some peer) :
    ∃ custodian, ((fresh settings router).course occurrences).custodian = some custodian := by
  refine course_induction (P := fun now => now.peers.get? chain = some peer →
    ∃ custodian, now.custodian = some custodian) ?_ occurrences nofun registered
  intro before occurrence charged registered
  rcases before.meet_cases occurrence with ⟨operation, -, administers⟩ | same
  · generalize before.meet occurrence = after at administers
    cases administers with
    | appointed appointment => exact ⟨_, rfl⟩
    | registered charged registration => exact ⟨_, charged⟩
  · rw [peers_eq_of_administered_eq same] at registered
    rw [custodian_eq_of_administered_eq same]
    exact charged registered

end Courses

section Relays

theorem readFill_refusesOnly {ρ : Type} [TokenRouter ρ] (deployment : Deployment ρ) (id : FillId) :
    RefusesOnly (deployment.readFill id) (· ≠ .notInitialized) := by
  unfold readFill
  split
  · exact .error nofun
  · split
    · exact .error nofun
    · split
      · exact .error nofun
      · exact .bind (.require nofun) fun _ => .ok _

theorem relayTo_refusesOnly (received : PeerFill) (recipient : Address) :
    RefusesOnly (received.relayTo recipient) (· ≠ .notInitialized) := by
  unfold PeerFill.relayTo
  split
  · exact .bind (.require nofun) fun _ => .ok _
  · exact .error nofun

theorem requirePayable_refusesOnly (received : PeerFill) (now : Int64) :
    RefusesOnly (received.requirePayable now) (· ≠ .notInitialized) := by
  have limited : RefusesOnly received.timeLimit (· ≠ .notInitialized) := by
    unfold PeerFill.timeLimit
    split
    · exact .ok _
    · exact .ok _
    · exact .error nofun
  unfold PeerFill.requirePayable
  split
  · exact .ok _
  · exact .bind limited fun _ => .require nofun

variable {deployment : Deployment MemoryRouter} {payer recipient : Address} {id : FillId}
  {now : Int64}

/-- The account that the fee goes to is asked for when the fill has been read, so it is known. -/
theorem payableRelay_refusesOnly (reachable : deployment.Reachable) :
    RefusesOnly (deployment.payableRelay payer recipient id now) (· ≠ .notInitialized) := by
  refine (deployment.readFill_refusesOnly id).bind_of_eq_ok fun received read => ?_
  refine .bind (relayTo_refusesOnly received recipient) fun relay => ?_
  refine .bind (requirePayable_refusesOnly received now) fun _ => ?_
  refine .bind (.require nofun) fun _ => ?_
  obtain ⟨custodian, charged⟩ := reachable.custodian_of_peer (readFill_eq_ok_iff.mp read).2.2.1
  rw [requireCustodian_eq_ok_iff.mpr charged]
  exact .ok _

theorem payableRelay_of_completeRelay {fault : SwapError}
    (refused : (deployment.step (.completeRelay payer recipient id now)).1 = .error fault) :
    deployment.payableRelay payer recipient id now = .error fault := by
  cases payable : deployment.payableRelay payer recipient id now with
  | error cause =>
    have same : (deployment.step (.completeRelay payer recipient id now)).1 = .error cause :=
      Refuses.bind (.get (.check payable))
    cases same.symm.trans refused
    rfl
  | ok relay =>
    obtain ⟨received, payout, -, -, paid⟩ := perform_completeRelay_of_payableRelay payable
    have accepted : deployment.step (.completeRelay payer recipient id now) =
        (.ok (.paidRelay payout), deployment.dropFill id) :=
      perform_map_eq_ok_iff.mpr ⟨payout, paid, rfl⟩
    cases (congrArg Prod.fst accepted).symm.trans refused

end Relays

/-- In every deployment that a run leads to: whoever is in charge, the accounts are proper and
somebody is in charge ever after; before that nothing is registered, staged or ordered; and no relay
is refused because nobody is in charge. -/
theorem custodian_invariant {deployment : Deployment MemoryRouter}
    (reachable : deployment.Reachable) :
    (∀ custodian, deployment.custodian = some custodian →
      custodian.Proper ∧ ∀ later, ∃ next, (deployment.run later).custodian = some next) ∧
    (deployment.custodian = none → deployment.Untouched) ∧
    ∀ payer recipient id now,
      (deployment.step (.completeRelay payer recipient id now)).1 ≠ .error .notInitialized := by
  refine ⟨fun custodian charged => ⟨?_, fun later => ?_⟩, reachable.untouched, ?_⟩
  · obtain ⟨settings, events, rfl⟩ := reachable
    rw [run_eq_course] at charged
    exact proper_course settings _ _ custodian charged
  · rw [run_eq_course]
    exact charged_course charged _
  · intro payer recipient id now refused
    exact payableRelay_refusesOnly reachable _ (payableRelay_of_completeRelay refused) rfl

/-- A fill to be relayed waits while a deployment gets its first accounts in charge and a peer, and
while the ownership passes to account 15, which names another successor. -/
def handover : List Event :=
  [ .delivered 9 ⟨2, 22, 1 :: List.replicate 31 0 ++ [7] ++ [2, 0, 0, 0, 3, 0, 0, 0, 0, 0, 5] ++ [0],
      .fastFill, 0, 70⟩,
    .asked (.install 11 12 13 14),
    .asked (.addPeer 12 2 22 ⟨5, 1, ⟨10⟩, 0, some ⟨⟨1⟩, 0⟩, Settings.standardTimeLimit⟩),
    .asked (.submitOwnershipTransfer 11 11),
    .asked (.submitOwnershipTransfer 11 15),
    .asked (.confirmOwnershipTransfer 15),
    .asked (.submitOwnershipTransfer 15 16),
    .asked (.updateAssistant 15 0),
    .asked (.updateFeeRecipient 12 17) ]

/-- The successor is not the new owner, and a relay is never refused for want of accounts in charge,
neither in the end nor before there are any. -/
theorem handover_custodian_invariant :
    let early := (fresh (.standard 1) .empty).run (handover.take 1)
    let now := (fresh (.standard 1) .empty).run handover
    let custodian : Custodian := ⟨15, some 16, 12, 13, 17⟩
    (early.Reachable ∧ early.custodian = none ∧ early.Untouched ∧
      (early.step (.completeRelay 8 7 9 0)).1 ≠ .error .notInitialized) ∧
    now.Reachable ∧ now.custodian = some custodian ∧ custodian.Proper ∧
      (∀ later, ∃ next, (now.run later).custodian = some next) ∧
      (now.step (.completeRelay 8 7 9 0)).1 ≠ .error .notInitialized := by
  intro early now custodian
  have earlyReachable : early.Reachable := ⟨_, _, rfl⟩
  have uncharged : early.custodian = none := rfl
  have reachable : now.Reachable := ⟨_, _, rfl⟩
  have charged : now.custodian = some custodian := rfl
  obtain ⟨-, untouched, earlyUnrefused⟩ := custodian_invariant earlyReachable
  obtain ⟨kept, -, unrefused⟩ := custodian_invariant reachable
  obtain ⟨proper, later⟩ := kept custodian charged
  exact ⟨⟨earlyReachable, uncharged, untouched uncharged, earlyUnrefused 8 7 9 0⟩, reachable, charged,
    proper, later, unrefused 8 7 9 0⟩

end Deployment
end SwapRelay
