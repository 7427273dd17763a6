import SwapRelay.Proofs.Atomicity

/-!
# Histories

A run of events, seen as the moments that it is made of. An event delivers a fill, is refused and
changes nothing, or succeeds with one of the effects of an operation; so a property of all reachable
deployments is shown by looking at these three cases.
-/

namespace SwapRelay.Deployment

/-- What an operation gives back when it is asked for and not refused. -/
def outcome? (deployment : Deployment MemoryRouter) : Event → Option Outcome
  | .asked operation => (deployment.step operation).1.toOption
  | .delivered _ _ => none

/-- What an event can give back and leave behind. -/
inductive Happens (before : Deployment MemoryRouter) :
    Event → Option Outcome → Deployment MemoryRouter → Prop
  | delivered (id : FillId) (fill : Fill) :
    before.Happens (.delivered id fill) none
      { before with router := before.router.insertFill id fill }
  | refused (operation : Operation) : before.Happens (.asked operation) none before
  | accepted (operation : Operation) (outcome : Outcome) (after : Deployment MemoryRouter)
      (effect : before.Effect operation outcome after) :
    before.Happens (.asked operation) (some outcome) after

theorem happens (deployment : Deployment MemoryRouter) (event : Event) :
    deployment.Happens event (deployment.outcome? event) (deployment.after event) := by
  cases event with
  | delivered id fill => exact .delivered id fill
  | asked operation =>
    change deployment.Happens _ (deployment.step operation).1.toOption (deployment.step operation).2
    rcases performed : deployment.step operation with ⟨fault | outcome, after⟩
    · have kept := keptOnRefusal_action operation fault (congrArg Prod.fst performed)
      have same : after = deployment := by
        rw [← kept]
        exact (congrArg Prod.snd performed).symm
      rw [same]
      exact .refused operation
    · exact .accepted operation outcome after (effect_of_step_eq_ok performed)

theorem run_append (deployment : Deployment MemoryRouter) (past later : List Event) :
    deployment.run (past ++ later) = (deployment.run past).run later :=
  List.foldl_append

section Invariant

variable {P : Deployment MemoryRouter → Prop} {deployment : Deployment MemoryRouter}

theorem run_induction (kept : ∀ before event, P before → P (before.after event))
    (events : List Event) (start : P deployment) : P (deployment.run events) := by
  induction events generalizing deployment with
  | nil => exact start
  | cons event later ih => exact ih (kept deployment event start)

/-- It is enough to look at what an event can give back and leave behind. -/
theorem run_invariant
    (kept : ∀ before event outcome? after, before.Happens event outcome? after → P before → P after)
    (events : List Event) (start : P deployment) : P (deployment.run events) :=
  run_induction (fun before event => kept _ _ _ _ (before.happens event)) events start

theorem Reachable.induction (reachable : deployment.Reachable)
    (start : ∀ settings, P (fresh settings .empty))
    (kept : ∀ before event, P before → P (before.after event)) : P deployment := by
  obtain ⟨settings, events, rfl⟩ := reachable
  exact run_induction kept events (start settings)

theorem Reachable.invariant (reachable : deployment.Reachable)
    (start : ∀ settings, P (fresh settings .empty))
    (kept : ∀ before event outcome? after, before.Happens event outcome? after →
      P before → P after) : P deployment :=
  reachable.induction start fun before event => kept _ _ _ _ (before.happens event)

end Invariant

/-- An event and the deployment that it happens to. -/
structure Moment where
  before : Deployment MemoryRouter
  event : Event

namespace Moment

/-- What the operation gives back, if there is one and it succeeds. -/
def outcome? (moment : Moment) : Option Outcome := moment.before.outcome? moment.event

def after (moment : Moment) : Deployment MemoryRouter := moment.before.after moment.event

end Moment

/-- The moments of a run. -/
def history (deployment : Deployment MemoryRouter) : List Event → List Moment
  | [] => []
  | event :: later => ⟨deployment, event⟩ :: (deployment.after event).history later

def outcomes (deployment : Deployment MemoryRouter) (events : List Event) : List Outcome :=
  (deployment.history events).filterMap Moment.outcome?

theorem history_append (deployment : Deployment MemoryRouter) (past later : List Event) :
    deployment.history (past ++ later) =
      deployment.history past ++ (deployment.run past).history later := by
  induction past generalizing deployment with
  | nil => rfl
  | cons event past ih => exact congrArg _ (ih (deployment.after event))

theorem exists_split_of_mem_history {moment : Moment} {events : List Event}
    {deployment : Deployment MemoryRouter} (mem : moment ∈ deployment.history events) :
    ∃ past later, events = past ++ moment.event :: later ∧ moment.before = deployment.run past := by
  induction events generalizing deployment with
  | nil => cases mem
  | cons event rest ih =>
    rcases List.mem_cons.mp mem with rfl | mem
    · exact ⟨[], rest, rfl, rfl⟩
    · obtain ⟨past, later, rfl, same⟩ := ih mem
      exact ⟨event :: past, later, rfl, same⟩

theorem outcomes_cons (deployment : Deployment MemoryRouter) (event : Event) (later : List Event) :
    deployment.outcomes (event :: later) =
      (deployment.outcome? event).toList ++ (deployment.after event).outcomes later := by
  have met : (Moment.mk deployment event).outcome? = deployment.outcome? event := rfl
  rw [outcomes, history, List.filterMap_cons, met]
  cases deployment.outcome? event <;> rfl

theorem history_invariant {P : Deployment MemoryRouter → Prop}
    (kept : ∀ before event outcome? after, before.Happens event outcome? after → P before → P after)
    {events : List Event} {deployment : Deployment MemoryRouter} (start : P deployment) :
    ∀ moment ∈ deployment.history events, P moment.before := by
  induction events generalizing deployment with
  | nil => simp [history]
  | cons event later ih =>
    intro moment mem
    rcases List.mem_cons.mp mem with rfl | mem
    · exact start
    · exact ih (kept _ _ _ _ (deployment.happens event) start) moment mem

end SwapRelay.Deployment
