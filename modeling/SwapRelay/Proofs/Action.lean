import SwapRelay.Proofs.Checks

/-!
# Performing actions

What an action does, part by part, and what the in-memory router does when it is asked. A refusal
leaves a deployment as it was if every check comes before the first change, or if nothing that
follows a change can be refused; the lemmas below put an operation together from its parts in this
way, and they do the same for what an action leaves alone however it ends.
-/

namespace SwapRelay.Deployment

variable {ρ α β : Type} {deployment after : Deployment ρ}

theorem perform_pure (result : α) :
    deployment.perform (pure result) = (.ok result, deployment) := rfl

theorem perform_get : deployment.perform get = (.ok deployment, deployment) := rfl

theorem perform_set (changed : Deployment ρ) :
    deployment.perform (set changed) = (.ok (), changed) := rfl

theorem perform_modify (change : Deployment ρ → Deployment ρ) :
    deployment.perform (modify change) = (.ok (), change deployment) := rfl

theorem perform_check (check : Except SwapError α) :
    deployment.perform (liftM check) = (check, deployment) := by
  cases check <;> rfl

theorem perform_bind (first : Action ρ α) (next : α → Action ρ β) :
    deployment.perform (first >>= next) =
      match deployment.perform first with
      | (.ok result, between) => between.perform (next result)
      | (.error fault, between) => (.error fault, between) := by
  unfold perform
  rw [EStateM.run_bind]
  cases first.run deployment <;> rfl

theorem perform_bind_eq_ok_iff {first : Action ρ α} {next : α → Action ρ β} {result : β} :
    deployment.perform (first >>= next) = (.ok result, after) ↔
      ∃ value between, deployment.perform first = (.ok value, between) ∧
        between.perform (next value) = (.ok result, after) := by
  rw [perform_bind]
  rcases deployment.perform first with ⟨_ | value, between⟩ <;> simp [and_assoc]

theorem perform_bind_eq_error_iff {first : Action ρ α} {next : α → Action ρ β} {fault : SwapError} :
    deployment.perform (first >>= next) = (.error fault, after) ↔
      deployment.perform first = (.error fault, after) ∨
        ∃ value between, deployment.perform first = (.ok value, between) ∧
          between.perform (next value) = (.error fault, after) := by
  rw [perform_bind]
  rcases deployment.perform first with ⟨_ | value, between⟩ <;> simp [and_assoc]

theorem perform_pure_eq_ok_iff {value result : α} :
    deployment.perform (pure value) = (.ok result, after) ↔
      result = value ∧ after = deployment := by
  rw [perform_pure, Prod.mk.injEq, Except.ok.injEq, eq_comm, @eq_comm _ deployment]

theorem perform_set_eq_ok_iff {changed : Deployment ρ} {done : Unit} :
    deployment.perform (set changed) = (.ok done, after) ↔ after = changed := by
  rw [perform_set, Prod.mk.injEq, eq_self, true_and, eq_comm]

theorem perform_modify_eq_ok_iff {change : Deployment ρ → Deployment ρ} {done : Unit} :
    deployment.perform (modify change) = (.ok done, after) ↔ after = change deployment := by
  rw [perform_modify, Prod.mk.injEq, eq_self, true_and, eq_comm]

theorem perform_get_bind (next : Deployment ρ → Action ρ β) :
    deployment.perform (get >>= next) = deployment.perform (next deployment) := by
  rw [perform_bind, perform_get]

theorem perform_set_bind (changed : Deployment ρ) (next : Unit → Action ρ β) :
    deployment.perform (set changed >>= next) = changed.perform (next ()) := by
  rw [perform_bind, perform_set]

theorem perform_modify_bind (change : Deployment ρ → Deployment ρ) (next : Unit → Action ρ β) :
    deployment.perform (modify change >>= next) = (change deployment).perform (next ()) := by
  rw [perform_bind, perform_modify]

theorem perform_check_bind_eq_ok_iff {check : Except SwapError α} {next : α → Action ρ β}
    {result : β} : deployment.perform (liftM check >>= next) = (.ok result, after) ↔
      ∃ value, check = .ok value ∧ deployment.perform (next value) = (.ok result, after) := by
  rw [perform_bind, perform_check]
  cases check <;> simp

theorem perform_check_bind_of_eq_ok {check : Except SwapError α} {next : α → Action ρ β} {value : α}
    (passed : check = .ok value) :
    deployment.perform (liftM check >>= next) = deployment.perform (next value) := by
  rw [perform_bind, perform_check, passed]

theorem perform_check_bind_of_eq_error {check : Except SwapError α} {next : α → Action ρ β}
    {fault : SwapError} (failed : check = .error fault) :
    deployment.perform (liftM check >>= next) = (.error fault, deployment) := by
  rw [perform_bind, perform_check, failed]

theorem perform_map_eq_ok_iff {first : Action ρ α} {convert : α → β} {result : β} :
    deployment.perform (first >>= fun value => pure (convert value)) = (.ok result, after) ↔
      ∃ value, deployment.perform first = (.ok value, after) ∧ result = convert value := by
  simp only [perform_bind_eq_ok_iff, perform_pure_eq_ok_iff]
  constructor
  · rintro ⟨value, _, performed, rfl, rfl⟩
    exact ⟨value, performed, rfl⟩
  · rintro ⟨value, performed, rfl⟩
    exact ⟨value, after, performed, rfl, rfl⟩

theorem perform_onRouter (call : RouterAction ρ α) :
    deployment.perform (onRouter call) =
      match call.run deployment.router with
      | .ok result router => (.ok result, { deployment with router })
      | .error fault router => (.error fault, { deployment with router }) := by
  have opened : (onRouter call).run deployment = match call.run deployment.router with
    | .ok result router => .ok result { deployment with router }
    | .error fault router => .error fault { deployment with router } := rfl
  rw [perform, opened]
  cases call.run deployment.router <;> rfl

theorem perform_onRouter_eq_ok_iff {call : RouterAction ρ α} {result : α} :
    deployment.perform (onRouter call) = (.ok result, after) ↔
      ∃ router, call.run deployment.router = .ok result router ∧
        after = { deployment with router } := by
  rw [perform_onRouter]
  cases call.run deployment.router with
  | error fault router => simp
  | ok value router =>
    constructor
    · rintro ⟨⟩
      exact ⟨router, rfl, rfl⟩
    · rintro ⟨_, ⟨⟩, rfl⟩
      rfl

/-- If the action is refused, then the deployment stays as it was. -/
def KeptOnRefusal (deployment : Deployment ρ) (action : Action ρ α) : Prop :=
  ∀ fault, (deployment.perform action).1 = .error fault → (deployment.perform action).2 = deployment

namespace KeptOnRefusal

variable {first : Action ρ α} {next : α → Action ρ β}

theorem of_perform_eq_ok {action : Action ρ α} {result : α}
    (accepted : deployment.perform action = (.ok result, after)) :
    deployment.KeptOnRefusal action := by
  intro fault refused
  rw [accepted] at refused
  cases refused

theorem eq_of_perform_eq_error {action : Action ρ α} {fault : SwapError}
    (kept : deployment.KeptOnRefusal action)
    (refused : deployment.perform action = (.error fault, after)) : after = deployment := by
  have same := kept fault (congrArg Prod.fst refused)
  rwa [refused] at same

theorem accepted_or_refused {action : Action ρ α} (kept : deployment.KeptOnRefusal action) :
    (∃ result after, deployment.perform action = (.ok result, after)) ∨
      ∃ fault, deployment.perform action = (.error fault, deployment) := by
  cases performed : (deployment.perform action).1 with
  | ok result => exact .inl ⟨result, _, Prod.ext performed rfl⟩
  | error fault => exact .inr ⟨fault, Prod.ext performed (kept fault performed)⟩

theorem get {next : Deployment ρ → Action ρ β} (kept : deployment.KeptOnRefusal (next deployment)) :
    deployment.KeptOnRefusal (get >>= next) := by
  unfold KeptOnRefusal
  rw [perform_bind]
  exact kept

theorem check {check : Except SwapError α}
    (kept : ∀ value, check = .ok value → deployment.KeptOnRefusal (next value)) :
    deployment.KeptOnRefusal (liftM check >>= next) := by
  unfold KeptOnRefusal
  rw [perform_bind, perform_check]
  cases check with
  | error fault => exact fun _ _ => rfl
  | ok value => exact kept value rfl

theorem onRouter {call : RouterAction ρ α}
    (kept : ∀ fault router, call.run deployment.router = .error fault router →
      router = deployment.router) :
    deployment.KeptOnRefusal (onRouter call) := by
  intro fault
  rw [perform_onRouter]
  cases called : call.run deployment.router with
  | ok result router => exact nofun
  | error cause router =>
    intro _
    rw [kept cause router called]

/-- What cannot be refused may stand behind a change. -/
theorem bind (kept : deployment.KeptOnRefusal first)
    (accepted : ∀ value between, deployment.perform first = (.ok value, between) →
      ∃ result after, between.perform (next value) = (.ok result, after)) :
    deployment.KeptOnRefusal (first >>= next) := by
  intro fault
  rw [perform_bind]
  rcases performed : deployment.perform first with ⟨_ | value, between⟩
  · intro _
    have := kept _ (congrArg Prod.fst performed)
    rwa [performed] at this
  · obtain ⟨result, after, accepted⟩ := accepted value between performed
    intro refused
    simp [accepted] at refused

theorem map (kept : deployment.KeptOnRefusal first) (convert : α → β) :
    deployment.KeptOnRefusal (first >>= fun value => pure (convert value)) :=
  kept.bind fun value between _ => ⟨convert value, between, rfl⟩

end KeptOnRefusal

/-- A view of the deployment is the same behind the action, whether or not it is refused. -/
def Leaves {σ : Type} (deployment : Deployment ρ) (view : Deployment ρ → σ) (action : Action ρ α) :
    Prop :=
  view (deployment.perform action).2 = view deployment

namespace Leaves

variable {σ : Type} {view : Deployment ρ → σ} {next : α → Action ρ β}

theorem get {next : Deployment ρ → Action ρ β} (left : deployment.Leaves view (next deployment)) :
    deployment.Leaves view (get >>= next) := by
  unfold Leaves
  rw [perform_bind]
  exact left

theorem check {check : Except SwapError α}
    (left : ∀ value, check = .ok value → deployment.Leaves view (next value)) :
    deployment.Leaves view (liftM check >>= next) := by
  unfold Leaves
  rw [perform_bind, perform_check]
  cases check with
  | error fault => rfl
  | ok value => exact left value rfl

theorem onRouter {call : RouterAction ρ α}
    (ignores : ∀ router, view { deployment with router } = view deployment) :
    deployment.Leaves view (onRouter call) := by
  unfold Leaves
  rw [perform_onRouter]
  cases call.run deployment.router with
  | ok result router => exact ignores router
  | error fault router => exact ignores router

theorem bind {first : Action ρ α} (left : deployment.Leaves view first)
    (others : ∀ value (between : Deployment ρ), between.Leaves view (next value)) :
    deployment.Leaves view (first >>= next) := by
  unfold Leaves at *
  rw [perform_bind]
  rcases performed : deployment.perform first with ⟨_ | value, between⟩
  · rwa [performed] at left
  · rw [performed] at left
    exact (others value between).trans left

theorem map {first : Action ρ α} (left : deployment.Leaves view first) (convert : α → β) :
    deployment.Leaves view (first >>= fun value => pure (convert value)) :=
  left.bind fun _ _ => rfl

end Leaves

def Refuses (deployment : Deployment ρ) (action : Action ρ α) (fault : SwapError) : Prop :=
  (deployment.perform action).1 = .error fault

namespace Refuses

variable {next : α → Action ρ β} {fault : SwapError}

theorem get {next : Deployment ρ → Action ρ β} (refused : deployment.Refuses (next deployment) fault) :
    deployment.Refuses (get >>= next) fault := by
  unfold Refuses
  rw [perform_bind]
  exact refused

theorem check {check : Except SwapError α} (failed : check = .error fault) :
    deployment.Refuses (liftM check >>= next) fault := by
  unfold Refuses
  rw [perform_bind, perform_check, failed]

theorem bind {first : Action ρ α} (refused : deployment.Refuses first fault) :
    deployment.Refuses (first >>= next) fault := by
  unfold Refuses at *
  rw [perform_bind]
  rcases performed : deployment.perform first with ⟨_ | value, between⟩
  · rw [performed] at refused
    cases refused
    rfl
  · rw [performed] at refused
    cases refused

end Refuses

section Router

variable {deployment after : Deployment MemoryRouter}

/-- The deployment when its router has handed a fill over. -/
def dropFill (deployment : Deployment MemoryRouter) (id : FillId) : Deployment MemoryRouter :=
  { deployment with
    router := { deployment.router with fills := deployment.router.fills.erase id } }

def fileOrder (deployment : Deployment MemoryRouter) (order : MarketOrder) (next : OrderId) :
    Deployment MemoryRouter :=
  { deployment with
    router := { deployment.router with
      orders := deployment.router.orders.insert deployment.router.nextOrder order
      nextOrder := next } }

theorem perform_consumeFill_eq_ok_iff {id : FillId} {amount : Word 8} :
    deployment.perform (consumeFill id) = (.ok amount, after) ↔
      ∃ fill, deployment.router.fills.get? id = some fill ∧ amount = fill.amount ∧
        after = deployment.dropFill id := by
  rw [consumeFill, perform_onRouter_eq_ok_iff]
  simp only [MemoryRouter.tokenRouter_consumeFill, MemoryRouter.consumeFill_eq_ok_iff]
  constructor
  · rintro ⟨_, ⟨fill, held, rfl, rfl⟩, rfl⟩
    exact ⟨fill, held, rfl, rfl⟩
  · rintro ⟨fill, held, rfl, rfl⟩
    exact ⟨_, ⟨fill, held, rfl, rfl⟩, rfl⟩

theorem perform_prepareOrder_eq_ok_iff {order : MarketOrder} {number : OrderId} :
    deployment.perform (prepareOrder order) = (.ok number, after) ↔
      order.amountIn ≠ 0 ∧ number = deployment.router.nextOrder ∧
        ∃ next : OrderId, next.val = number.val + 1 ∧ after = deployment.fileOrder order next := by
  rw [prepareOrder, perform_onRouter_eq_ok_iff]
  simp only [MemoryRouter.tokenRouter_prepareMarketOrder,
    MemoryRouter.prepareMarketOrder_eq_ok_iff]
  constructor
  · rintro ⟨_, ⟨positive, rfl, next, follows, rfl⟩, rfl⟩
    exact ⟨positive, rfl, next, follows, rfl⟩
  · rintro ⟨positive, rfl, next, follows, rfl⟩
    exact ⟨_, ⟨positive, rfl, next, follows, rfl⟩, rfl⟩

theorem perform_consumeFill_bind_eq_ok_iff {id : FillId} {next : Word 8 → Action MemoryRouter β}
    {result : β} : deployment.perform (consumeFill id >>= next) = (.ok result, after) ↔
      ∃ fill, deployment.router.fills.get? id = some fill ∧
        (deployment.dropFill id).perform (next fill.amount) = (.ok result, after) := by
  simp only [perform_bind_eq_ok_iff, perform_consumeFill_eq_ok_iff]
  constructor
  · rintro ⟨_, _, ⟨fill, held, rfl, rfl⟩, accepted⟩
    exact ⟨fill, held, accepted⟩
  · rintro ⟨fill, held, accepted⟩
    exact ⟨_, _, ⟨fill, held, rfl, rfl⟩, accepted⟩

theorem perform_prepareOrder_bind_eq_ok_iff {order : MarketOrder}
    {next : OrderId → Action MemoryRouter β} {result : β} :
    deployment.perform (prepareOrder order >>= next) = (.ok result, after) ↔
      order.amountIn ≠ 0 ∧ ∃ number : OrderId, number.val = deployment.router.nextOrder.val + 1 ∧
        (deployment.fileOrder order number).perform (next deployment.router.nextOrder) =
          (.ok result, after) := by
  simp only [perform_bind_eq_ok_iff, perform_prepareOrder_eq_ok_iff]
  constructor
  · rintro ⟨_, _, ⟨positive, rfl, number, follows, rfl⟩, accepted⟩
    exact ⟨positive, number, follows, accepted⟩
  · rintro ⟨positive, number, follows, accepted⟩
    exact ⟨_, _, ⟨positive, rfl, number, follows, rfl⟩, accepted⟩

end Router
end SwapRelay.Deployment
