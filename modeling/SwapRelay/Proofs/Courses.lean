import SwapRelay.Proofs.Atomicity

/-!
# Courses

What happens to a deployment over a router of which nothing is known. Operations are asked for, and
between them the router changes as it likes. Transfers, however they end, and the router leave
settings, accounts in charge and peers alone, so these change by administration only. A run over the
in-memory router is a course.
-/

namespace SwapRelay

/-- What can happen to a deployment over any router. -/
inductive Occurrence (ρ : Type) where
  /-- Somebody asks for an operation, which may be refused. -/
  | asked (operation : Operation)
  /-- The router changes without the deployment, since others use it too. -/
  | moved (change : ρ → ρ)

def Occurrence.operation? {ρ : Type} : Occurrence ρ → Option Operation
  | .asked operation => some operation
  | .moved _ => none

/-- An event, as it looks where nothing is known of the router. -/
def Event.occurrence : Event → Occurrence MemoryRouter
  | .asked operation => .asked operation
  | .delivered id fill => .moved fun router => router.insertFill id fill

namespace Deployment

section Courses

variable {ρ : Type} [TokenRouter ρ]

def meet (deployment : Deployment ρ) : Occurrence ρ → Deployment ρ
  | .asked operation => (deployment.step operation).2
  | .moved change => { deployment with router := change deployment.router }

/-- The deployment behind a course of occurrences. -/
def course (deployment : Deployment ρ) (occurrences : List (Occurrence ρ)) : Deployment ρ :=
  occurrences.foldl meet deployment

theorem course_append (deployment : Deployment ρ) (past later : List (Occurrence ρ)) :
    deployment.course (past ++ later) = (deployment.course past).course later :=
  List.foldl_append

/-- An occurrence and the deployment that it meets. -/
structure Turn (ρ : Type) where
  before : Deployment ρ
  occurrence : Occurrence ρ

def Turn.after (turn : Turn ρ) : Deployment ρ := turn.before.meet turn.occurrence

def turns (deployment : Deployment ρ) : List (Occurrence ρ) → List (Turn ρ)
  | [] => []
  | occurrence :: later => ⟨deployment, occurrence⟩ :: (deployment.meet occurrence).turns later

theorem turns_append_singleton (deployment : Deployment ρ) (past : List (Occurrence ρ))
    (occurrence : Occurrence ρ) :
    deployment.turns (past ++ [occurrence]) =
      deployment.turns past ++ [⟨deployment.course past, occurrence⟩] := by
  induction past generalizing deployment with
  | nil => rfl
  | cons first past ih => exact congrArg _ (ih (deployment.meet first))

theorem turns_induction {P : Deployment ρ → Prop} {deployment : Deployment ρ}
    {occurrences : List (Occurrence ρ)}
    (kept : ∀ turn ∈ deployment.turns occurrences, P turn.before → P turn.after)
    (start : P deployment) : P (deployment.course occurrences) := by
  induction occurrences generalizing deployment with
  | nil => exact start
  | cons occurrence later ih =>
    obtain ⟨here, there⟩ := List.forall_mem_cons.mp kept
    exact ih there (here start)

theorem course_induction {P : Deployment ρ → Prop} {deployment : Deployment ρ}
    (kept : ∀ before occurrence, P before → P (before.meet occurrence))
    (occurrences : List (Occurrence ρ)) (start : P deployment) :
    P (deployment.course occurrences) :=
  turns_induction (fun turn _ => kept turn.before turn.occurrence) start

end Courses

theorem after_eq_meet (deployment : Deployment MemoryRouter) (event : Event) :
    deployment.after event = deployment.meet event.occurrence := by
  cases event <;> rfl

theorem run_eq_course (deployment : Deployment MemoryRouter) (events : List Event) :
    deployment.run events = deployment.course (events.map Event.occurrence) := by
  induction events generalizing deployment with
  | nil => rfl
  | cons event later ih =>
    have rest := ih (deployment.after event)
    rw [after_eq_meet] at rest
    change (deployment.after event).run later = _
    rw [after_eq_meet]
    exact rest

section Transfers

variable {ρ : Type} {deployment : Deployment ρ}

/-- What administration is about: the settings, the accounts in charge and the peers. -/
def administered (deployment : Deployment ρ) : Settings × Option Custodian × Table 2 Peer :=
  (deployment.settings, deployment.custodian, deployment.peers)

theorem custodian_eq_of_administered_eq {before after : Deployment ρ}
    (same : after.administered = before.administered) : after.custodian = before.custodian :=
  congrArg (fun administered => administered.2.1) same

theorem peers_eq_of_administered_eq {before after : Deployment ρ}
    (same : after.administered = before.administered) : after.peers = before.peers :=
  congrArg (fun administered => administered.2.2) same

/-- A view of a deployment that shows neither the router nor the payloads that are staged. -/
structure IgnoresInbound {σ : Type} (view : Deployment ρ → σ) : Prop where
  router : ∀ (deployment : Deployment ρ) router, view { deployment with router } = view deployment
  stagedInbound : ∀ (deployment : Deployment ρ) stagedInbound,
    view { deployment with stagedInbound } = view deployment

section Inbound

variable {σ : Type} {view : Deployment ρ → σ} (ignores : IgnoresInbound view)

include ignores

theorem releaseInbound_leaves (recipient dstToken beneficiary : Address) (id : FillId) :
    deployment.Leaves view (releaseInbound recipient dstToken beneficiary id) :=
  .get (.check fun _ _ => .check fun _ _ => ignores.stagedInbound _ _)

variable [TokenRouter ρ]

theorem consumeFill_leaves (id : FillId) : deployment.Leaves view (consumeFill id) :=
  .onRouter fun _ => ignores.router _ _

theorem completeDirect_leaves (recipient : Address) (id : FillId) :
    deployment.Leaves view (completeDirect recipient id) := by
  refine .get (.check fun _ _ => .check fun _ _ => ?_)
  exact (consumeFill_leaves ignores id).map _

/-- This holds also when the router hands over less than the fee, which refuses the payment when the
fill is gone. -/
theorem completeRelay_leaves (payer recipient : Address) (id : FillId) (now : Int64) :
    deployment.Leaves view (completeRelay payer recipient id now) := by
  refine .get (.check fun relay _ => ?_)
  refine (consumeFill_leaves ignores id).bind fun custody between => ?_
  split
  · rfl
  · exact .check fun _ _ => .check fun _ _ => rfl

theorem completePayload_leaves (stagedBy : Address) (id : FillId) :
    deployment.Leaves view (completePayload stagedBy id) := by
  refine .get (.check fun _ _ => ?_)
  exact (consumeFill_leaves ignores id).bind fun _ _ => ignores.stagedInbound _ _

theorem view_step_of_isInbound (deployment : Deployment ρ) {operation : Operation}
    (inbound : operation.IsInbound) : view (deployment.step operation).2 = view deployment := by
  change deployment.Leaves view operation.action
  cases operation with
  | completeDirect recipient id => exact (completeDirect_leaves ignores recipient id).map _
  | completeRelay payer recipient id now =>
    exact (completeRelay_leaves ignores payer recipient id now).map _
  | completePayload stagedBy id => exact (completePayload_leaves ignores stagedBy id).map _
  | releaseInbound recipient dstToken beneficiary id =>
    exact (releaseInbound_leaves ignores recipient dstToken beneficiary id).map _
  | _ => exact inbound.elim

end Inbound

theorem stageOutbound_leaves_administered (request : StagingRequest) :
    deployment.Leaves administered (stageOutbound request) :=
  .get (.check fun _ _ => .check fun _ _ => rfl)

theorem closeStagedOutbound_leaves_administered (sender : Address) (id : StagedId) :
    deployment.Leaves administered (closeStagedOutbound sender id) :=
  .get (.check fun _ _ => .check fun _ _ => rfl)

variable [TokenRouter ρ]

theorem prepareOrder_leaves_administered (order : MarketOrder) :
    deployment.Leaves administered (prepareOrder order) :=
  .onRouter fun _ => rfl

theorem initiateTransfer_leaves_administered (payer refundToken : Address) (id : StagedId) :
    deployment.Leaves administered (initiateTransfer payer refundToken id) := by
  refine .get (.check fun order _ => ?_)
  exact (prepareOrder_leaves_administered order).bind fun _ _ => rfl

theorem administered_step_of_not_isAdministrative (deployment : Deployment ρ)
    {operation : Operation} (transfer : ¬ operation.IsAdministrative) :
    (deployment.step operation).2.administered = deployment.administered := by
  cases operation with
  | stageOutbound request => exact (stageOutbound_leaves_administered request).map _
  | closeStagedOutbound sender id =>
    exact (closeStagedOutbound_leaves_administered sender id).map _
  | initiateTransfer payer refundToken id =>
    exact (initiateTransfer_leaves_administered payer refundToken id).map _
  | completeDirect | completeRelay | completePayload | releaseInbound =>
    have ignores : IgnoresInbound (@administered ρ) := ⟨fun _ _ => rfl, fun _ _ => rfl⟩
    exact view_step_of_isInbound ignores deployment trivial
  | _ => exact absurd trivial transfer

theorem administered_step_of_refused (deployment : Deployment ρ) {operation : Operation}
    {fault : SwapError} (refused : (deployment.step operation).1 = .error fault) :
    (deployment.step operation).2.administered = deployment.administered := by
  by_cases administrative : operation.IsAdministrative
  · have kept := keptOnRefusal_of_isAdministrative administrative fault refused
    exact congrArg administered kept
  · exact deployment.administered_step_of_not_isAdministrative administrative

theorem administers_or_administered_eq (deployment : Deployment ρ) (operation : Operation) :
    deployment.Administers operation (deployment.step operation).2 ∨
      (deployment.step operation).2.administered = deployment.administered := by
  by_cases administrative : operation.IsAdministrative
  · cases result : (deployment.step operation).1 with
    | error fault => exact .inr (deployment.administered_step_of_refused result)
    | ok outcome => exact .inl (administers_of_step_eq_ok administrative (Prod.ext result rfl)).2
  · exact .inr (deployment.administered_step_of_not_isAdministrative administrative)

/-- At an occurrence somebody administers the deployment, or it is administered as before. -/
theorem meet_cases (deployment : Deployment ρ) (occurrence : Occurrence ρ) :
    (∃ operation, occurrence = .asked operation ∧
      deployment.Administers operation (deployment.meet occurrence)) ∨
      (deployment.meet occurrence).administered = deployment.administered := by
  cases occurrence with
  | moved change => exact .inr rfl
  | asked operation =>
    exact (deployment.administers_or_administered_eq operation).imp_left fun administers =>
      ⟨operation, rfl, administers⟩

theorem settings_meet (deployment : Deployment ρ) (occurrence : Occurrence ρ) :
    (deployment.meet occurrence).settings = deployment.settings := by
  rcases deployment.meet_cases occurrence with ⟨operation, -, administers⟩ | same
  · exact administers.settings_eq
  · exact congrArg Prod.fst same

theorem settings_course (deployment : Deployment ρ) (occurrences : List (Occurrence ρ)) :
    (deployment.course occurrences).settings = deployment.settings :=
  course_induction (P := fun later => later.settings = deployment.settings)
    (fun before occurrence kept => (before.settings_meet occurrence).trans kept) occurrences rfl

end Transfers

theorem settings_run (deployment : Deployment MemoryRouter) (events : List Event) :
    (deployment.run events).settings = deployment.settings := by
  rw [run_eq_course]
  exact deployment.settings_course _

end Deployment
end SwapRelay
