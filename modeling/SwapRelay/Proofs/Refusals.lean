import SwapRelay.Proofs.Action

/-!
# Kinds of refusals

What a check or an action can be refused for, known without asking when it is refused. A kind of
reasons covers a check that is put together from parts if it covers each part, where a part may rely
on what the parts before it have handed over.
-/

namespace SwapRelay

/-- The check is refused for reasons of this kind only. -/
def RefusesOnly {α : Type} (check : Except SwapError α) (kind : SwapError → Prop) : Prop :=
  ∀ fault, check = .error fault → kind fault

namespace RefusesOnly

variable {α β : Type} {kind : SwapError → Prop}

theorem ok (value : α) : RefusesOnly (.ok value) kind := nofun

theorem error {fault : SwapError} (holds : kind fault) :
    RefusesOnly (.error fault : Except SwapError α) kind := by
  rintro _ ⟨⟩
  exact holds

theorem bind_of_eq_ok {check : Except SwapError α} {next : α → Except SwapError β}
    (first : RefusesOnly check kind)
    (others : ∀ value, check = .ok value → RefusesOnly (next value) kind) :
    RefusesOnly (check >>= next) kind := by
  intro fault refused
  cases check with
  | error cause =>
    cases refused
    exact first fault rfl
  | ok value => exact others value rfl fault refused

theorem bind {check : Except SwapError α} {next : α → Except SwapError β}
    (first : RefusesOnly check kind) (others : ∀ value, RefusesOnly (next value) kind) :
    RefusesOnly (check >>= next) kind :=
  first.bind_of_eq_ok fun value _ => others value

theorem require_of {condition : Prop} [Decidable condition] {fault : SwapError}
    (holds : ¬ condition → kind fault) : RefusesOnly (SwapRelay.require condition fault) kind := by
  unfold SwapRelay.require
  split
  · exact ok ()
  · rename_i failed
    exact error (holds failed)

theorem require {condition : Prop} [Decidable condition] {fault : SwapError}
    (holds : kind fault) : RefusesOnly (SwapRelay.require condition fault) kind :=
  require_of fun _ => holds

theorem within {n value : Nat} (holds : kind .amountOverflow) :
    RefusesOnly (within n value) kind := by
  unfold SwapRelay.within
  split
  · exact ok _
  · exact error holds

theorem foldlM {σ : Type} {step : σ → α → Except SwapError σ}
    (steps : ∀ before item, RefusesOnly (step before item) kind) (items : List α) (first : σ) :
    RefusesOnly (items.foldlM step first) kind := by
  induction items generalizing first with
  | nil => exact ok first
  | cons item later ih =>
    rw [List.foldlM_cons]
    exact (steps first item).bind ih

theorem forM {check : α → Except SwapError Unit} {items : List α}
    (each : ∀ item ∈ items, RefusesOnly (check item) kind) :
    RefusesOnly (items.forM check) kind := by
  induction items with
  | nil => exact ok ()
  | cons item later ih =>
    obtain ⟨here, there⟩ := List.forall_mem_cons.mp each
    exact here.bind fun _ => ih there

end RefusesOnly

namespace Deployment

variable {ρ α β : Type} {deployment : Deployment ρ}

theorem perform_check_bind_refusesOnly {check : Except SwapError α} {next : α → Action ρ β}
    {kind : SwapError → Prop} (first : RefusesOnly check kind)
    (others : ∀ value, RefusesOnly (deployment.perform (next value)).1 kind) :
    RefusesOnly (deployment.perform (liftM check >>= next)).1 kind := by
  rw [perform_bind, perform_check]
  cases check with
  | error fault => exact .error (first fault rfl)
  | ok value => exact others value

theorem perform_map_refusesOnly {first : Action ρ α} {convert : α → β} {kind : SwapError → Prop}
    (refuses : RefusesOnly (deployment.perform first).1 kind) :
    RefusesOnly (deployment.perform (first >>= fun value => pure (convert value))).1 kind := by
  rw [perform_bind]
  rcases performed : deployment.perform first with ⟨fault | value, between⟩
  · exact .error (refuses fault (congrArg Prod.fst performed))
  · exact .ok _

end Deployment
end SwapRelay
