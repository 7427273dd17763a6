import Mathlib.Data.List.Induction
import SwapRelay.Proofs.Courses

/-!
# Passing ownership on

Ownership passes in two steps, and between them a deployment remembers no more than the account that
its owner has named. This is all that matters of the past: the account is there exactly if the latest
success among submissions, confirmations and cancellations was a submission, and it is the one that
was submitted then. So whoever becomes the owner was named by the owner before, who has not taken it
back since.
-/

namespace SwapRelay

namespace Operation

/-- The operations that submit, confirm or cancel a transfer of ownership. -/
def passesOwnership : Operation → Bool
  | .submitOwnershipTransfer _ _ | .confirmOwnershipTransfer _ | .cancelOwnershipTransfer _ => true
  | _ => false

/-- The owner and the successor between whom a success leaves a transfer of ownership pending. -/
def pendingTransfer? : Operation → Option (Address × Address)
  | .submitOwnershipTransfer signer newOwner => some (signer, newOwner)
  | _ => none

end Operation

def Custodian.pendingTransfer? (custodian : Custodian) : Option (Address × Address) :=
  custodian.pendingOwner.map fun successor => (custodian.owner, successor)

namespace Appointment

variable {operation : Operation} {before? : Option Custodian} {former latter : Custodian}

theorem pendingTransfer?_eq (appointment : Appointment operation before? latter) :
    latter.pendingTransfer? =
      if operation.passesOwnership then operation.pendingTransfer?
      else before?.bind Custodian.pendingTransfer? := by
  cases appointment <;> rfl

theorem of_owner_ne (appointment : Appointment operation (some former) latter)
    (changed : latter.owner ≠ former.owner) :
    operation = .confirmOwnershipTransfer latter.owner ∧
      former.pendingOwner = some latter.owner := by
  cases appointment with
  | confirm pending => exact ⟨rfl, pending⟩
  | _ => exact absurd rfl changed

end Appointment

namespace Deployment

variable {ρ : Type}

/-- The owner and the successor between whom a transfer of ownership is pending. -/
def pendingTransfer? (deployment : Deployment ρ) : Option (Address × Address) :=
  deployment.custodian.bind Custodian.pendingTransfer?

theorem pendingTransfer?_eq_some_iff {deployment : Deployment ρ} {owner successor : Address} :
    deployment.pendingTransfer? = some (owner, successor) ↔
      ∃ custodian, deployment.custodian = some custodian ∧ custodian.owner = owner ∧
        custodian.pendingOwner = some successor := by
  simp only [pendingTransfer?, Custodian.pendingTransfer?, Option.bind_eq_some_iff,
    Option.map_eq_some_iff, Prod.mk.injEq]
  constructor
  · rintro ⟨custodian, charged, named, pending, rfl, rfl⟩
    exact ⟨custodian, charged, rfl, pending⟩
  · rintro ⟨custodian, charged, rfl, pending⟩
    exact ⟨custodian, charged, successor, pending, rfl, rfl⟩

variable [TokenRouter ρ]

section Steps

variable {before after : Deployment ρ} {operation : Operation} {outcome : Outcome}

theorem pendingTransfer?_of_step_eq_ok (accepted : before.step operation = (.ok outcome, after)) :
    after.pendingTransfer? =
      if operation.passesOwnership then operation.pendingTransfer?
      else before.pendingTransfer? := by
  by_cases administrative : operation.IsAdministrative
  · cases (administers_of_step_eq_ok administrative accepted).2 with
    | appointed appointment => exact appointment.pendingTransfer?_eq
    | registered charged registration => cases registration <;> rfl
  · have kept := before.administered_step_of_not_isAdministrative administrative
    rw [accepted] at kept
    have same := custodian_eq_of_administered_eq kept
    have unmoved : operation.passesOwnership = false := by
      cases operation with
      | submitOwnershipTransfer signer newOwner => exact absurd trivial administrative
      | confirmOwnershipTransfer signer => exact absurd trivial administrative
      | cancelOwnershipTransfer signer => exact absurd trivial administrative
      | _ => rfl
    rw [unmoved, pendingTransfer?, same]
    rfl

theorem custodian_step_of_refused {fault : SwapError}
    (refused : (before.step operation).1 = .error fault) :
    (before.step operation).2.custodian = before.custodian :=
  custodian_eq_of_administered_eq (before.administered_step_of_refused refused)

/-- The owner changes only when a named successor confirms. -/
theorem confirmed_of_owner_ne {occurrence : Occurrence ρ} {former latter : Custodian}
    (charged : before.custodian = some former)
    (succeeded : (before.meet occurrence).custodian = some latter)
    (changed : latter.owner ≠ former.owner) :
    occurrence = .asked (.confirmOwnershipTransfer latter.owner) ∧
      (before.step (.confirmOwnershipTransfer latter.owner)).1 = .ok .done ∧
      before.pendingTransfer? = some (former.owner, latter.owner) := by
  have kept : (before.meet occurrence).custodian ≠ before.custodian := by
    intro same
    cases charged.symm.trans (same.symm.trans succeeded)
    exact changed rfl
  cases occurrence with
  | moved change => exact absurd rfl kept
  | asked operation =>
    have stepped : before.meet (.asked operation) = (before.step operation).2 := rfl
    rcases performed : before.step operation with ⟨fault | outcome, after⟩
    · have refused := congrArg Prod.fst performed
      exact absurd (custodian_step_of_refused refused) kept
    · by_cases administrative : operation.IsAdministrative
      · obtain ⟨rfl, administers⟩ := administers_of_step_eq_ok administrative performed
        rw [stepped, performed] at succeeded
        cases administers with
        | appointed appointment =>
          cases succeeded
          rw [charged] at appointment
          obtain ⟨rfl, pending⟩ := appointment.of_owner_ne changed
          have accepted := congrArg Prod.fst performed
          exact ⟨rfl, accepted, pendingTransfer?_eq_some_iff.mpr ⟨former, charged, rfl, pending⟩⟩
        | registered known registration =>
          cases charged.symm.trans succeeded
          exact absurd rfl changed
      · have same := before.administered_step_of_not_isAdministrative administrative
        exact absurd (custodian_eq_of_administered_eq same) kept

end Steps

section Courses

def Turn.ownershipMove? (turn : Turn ρ) : Option Operation :=
  match turn.occurrence with
  | .asked operation =>
    if operation.passesOwnership && (turn.before.step operation).1.isOk then some operation else none
  | .moved _ => none

/-- The submissions, confirmations and cancellations of a course that succeed, in their order. -/
def ownershipMoves (deployment : Deployment ρ) (occurrences : List (Occurrence ρ)) :
    List Operation :=
  (deployment.turns occurrences).filterMap Turn.ownershipMove?

theorem Turn.pendingTransfer?_after (turn : Turn ρ) :
    turn.after.pendingTransfer? =
      match turn.ownershipMove? with
      | some move => move.pendingTransfer?
      | none => turn.before.pendingTransfer? := by
  obtain ⟨before, occurrence⟩ := turn
  cases occurrence with
  | moved change => rfl
  | asked operation =>
    change (before.step operation).2.pendingTransfer? = _
    cases result : (before.step operation).1 with
    | error fault =>
      have unmoved : (Turn.mk before (.asked operation)).ownershipMove? = none := by
        simp [ownershipMove?, result, Except.isOk, Except.toBool]
      rw [unmoved, pendingTransfer?, custodian_step_of_refused result]
      rfl
    | ok outcome =>
      have moved : (Turn.mk before (.asked operation)).ownershipMove? =
          if operation.passesOwnership then some operation else none := by
        simp [ownershipMove?, result, Except.isOk, Except.toBool]
      rw [moved, pendingTransfer?_of_step_eq_ok (Prod.ext result rfl)]
      cases operation.passesOwnership <;> rfl

/-- All that is remembered of a course is whether its latest move was a submission, and which. -/
theorem pendingTransfer?_course (deployment : Deployment ρ) (past : List (Occurrence ρ)) :
    (deployment.course past).pendingTransfer? =
      match (deployment.ownershipMoves past).getLast? with
      | some move => move.pendingTransfer?
      | none => deployment.pendingTransfer? := by
  induction past using List.reverseRecOn with
  | nil => rfl
  | append_singleton past occurrence ih =>
    let turn : Turn ρ := ⟨deployment.course past, occurrence⟩
    have reached : deployment.course (past ++ [occurrence]) = turn.after :=
      deployment.course_append past [occurrence]
    have moves : deployment.ownershipMoves (past ++ [occurrence]) =
        deployment.ownershipMoves past ++ turn.ownershipMove?.toList := by
      rw [ownershipMoves, turns_append_singleton, List.filterMap_append]
      cases move : turn.ownershipMove? <;> simp [turn, ownershipMoves, move]
    rw [reached, turn.pendingTransfer?_after, moves]
    cases turn.ownershipMove? with
    | none => simpa using ih
    | some move => simp

end Courses

/-- Ownership passes in two steps, at every point of every course. (1) If an occurrence changes the
owner, then it is a confirmation by the new owner that succeeds, and of the submissions,
confirmations and cancellations that have succeeded before, the latest was the submission of the new
owner by the former one. (2) A successor is named exactly when the latest of them was a submission of
this account. -/
theorem ownership_passes_in_two_steps (settings : Settings) (router : ρ)
    (past : List (Occurrence ρ)) :
    let now := (fresh settings router).course past
    let latest := ((fresh settings router).ownershipMoves past).getLast?
    (∀ occurrence former latter, now.custodian = some former →
      (now.meet occurrence).custodian = some latter → latter.owner ≠ former.owner →
      occurrence = .asked (.confirmOwnershipTransfer latter.owner) ∧
        (now.step (.confirmOwnershipTransfer latter.owner)).1 = .ok .done ∧
        latest = some (.submitOwnershipTransfer former.owner latter.owner)) ∧
    ∀ successor,
      (∃ custodian, now.custodian = some custodian ∧ custodian.pendingOwner = some successor) ↔
        ∃ signer, latest = some (.submitOwnershipTransfer signer successor) := by
  intro now latest
  have latest_iff : ∀ signer successor,
      now.pendingTransfer? = some (signer, successor) ↔
        latest = some (.submitOwnershipTransfer signer successor) := by
    intro signer successor
    rw [pendingTransfer?_course (fresh settings router) past]
    change (match latest with | some move => move.pendingTransfer? | none => none) = _ ↔ _
    cases latest with
    | none => simp
    | some move => cases move <;> simp [Operation.pendingTransfer?]
  refine ⟨fun occurrence former latter charged succeeded changed => ?_, fun successor => ?_⟩
  · obtain ⟨asked, accepted, pending⟩ := confirmed_of_owner_ne charged succeeded changed
    exact ⟨asked, accepted, (latest_iff _ _).mp pending⟩
  · constructor
    · rintro ⟨custodian, charged, pending⟩
      have transfer := pendingTransfer?_eq_some_iff.mpr ⟨custodian, charged, rfl, pending⟩
      exact ⟨custodian.owner, (latest_iff _ _).mp transfer⟩
    · rintro ⟨signer, submitted⟩
      obtain ⟨custodian, charged, -, pending⟩ :=
        pendingTransfer?_eq_some_iff.mp ((latest_iff _ _).mpr submitted)
      exact ⟨custodian, charged, pending⟩

/-- A transfer to account 15 is submitted and cancelled, and one to account 16 is submitted. Account
15 tries to confirm, and the assistant to submit it again. -/
def resubmission : List (Occurrence MemoryRouter) :=
  [ .asked (.install 11 12 13 14),
    .asked (.submitOwnershipTransfer 11 15),
    .asked (.cancelOwnershipTransfer 11),
    .asked (.confirmOwnershipTransfer 15),
    .asked (.submitOwnershipTransfer 11 16),
    .asked (.submitOwnershipTransfer 12 15),
    .asked (.updateFeeUpdater 12 17) ]

theorem resubmitted_ownership_passes :
    let start := fresh (.standard 1) MemoryRouter.empty
    let now := start.course resubmission
    let latest := (start.ownershipMoves resubmission).getLast?
    now.custodian = some ⟨11, some 16, 12, 17, 14⟩ ∧
      (now.meet (.asked (.confirmOwnershipTransfer 16))).custodian =
        some ⟨16, none, 12, 17, 14⟩ ∧
      (now.step (.confirmOwnershipTransfer 16)).1 = .ok .done ∧
      latest = some (.submitOwnershipTransfer 11 16) ∧
      ∃ signer, latest = some (.submitOwnershipTransfer signer 16) := by
  intro start now latest
  have charged : now.custodian = some ⟨11, some 16, 12, 17, 14⟩ := rfl
  have succeeded : (now.meet (.asked (.confirmOwnershipTransfer 16))).custodian =
      some ⟨16, none, 12, 17, 14⟩ := rfl
  have changed : (16 : Address) ≠ 11 := by decide
  obtain ⟨passes, named⟩ :=
    ownership_passes_in_two_steps (.standard 1) MemoryRouter.empty resubmission
  obtain ⟨-, accepted, submitted⟩ := passes _ _ _ charged succeeded changed
  exact ⟨charged, succeeded, accepted, submitted, (named 16).mp ⟨_, charged, rfl⟩⟩

end Deployment
end SwapRelay
