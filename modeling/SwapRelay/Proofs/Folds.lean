import SwapRelay.Error

/-!
# Checks in a row

When a row of checks passes, be it written out or a fold over a list, and what it then hands over.
-/

namespace SwapRelay

theorem bind_eq_ok_iff {ε α β : Type} {check : Except ε α} {next : α → Except ε β} {result : β} :
    check >>= next = .ok result ↔ ∃ value, check = .ok value ∧ next value = .ok result := by
  cases check with
  | error fault => simp [bind, Except.bind]
  | ok value => simp [bind, Except.bind]

@[simp] theorem pure_eq_ok_iff {ε α : Type} {value result : α} :
    (pure value : Except ε α) = .ok result ↔ value = result := by
  simp [pure, Except.pure]

theorem run_check_bind {σ α β : Type} {check : Except SwapError α}
    {next : α → EStateM SwapError σ β} (state : σ) :
    (liftM check >>= next : EStateM SwapError σ β).run state =
      match check with
      | .ok value => (next value).run state
      | .error fault => .error fault state := by
  rw [EStateM.run_bind]
  cases check <;> rfl

theorem toOption_eq_some_iff {ε α : Type} {check : Except ε α} {value : α} :
    check.toOption = some value ↔ check = .ok value := by
  cases check with
  | error fault => simp [Except.toOption]
  | ok found => simp [Except.toOption]

/-- What every step of a fold keeps is kept by the fold. -/
theorem foldlM_invariant {ε σ α : Type} {P : σ → Prop} {step : σ → α → Except ε σ} {items : List α}
    {first last : σ} (kept : ∀ before item after, step before item = .ok after → P before → P after)
    (folded : items.foldlM step first = .ok last) (start : P first) : P last := by
  induction items generalizing first with
  | nil =>
    cases folded
    exact start
  | cons item rest ih =>
    rw [List.foldlM_cons] at folded
    obtain ⟨next, stepped, folded⟩ := bind_eq_ok_iff.mp folded
    exact ih folded (kept first item next stepped start)

theorem forM_eq_ok_iff {ε α : Type} {check : α → Except ε Unit} {items : List α} {done : Unit} :
    items.forM check = .ok done ↔ ∀ item ∈ items, check item = .ok () := by
  induction items with
  | nil => exact iff_of_true rfl nofun
  | cons head rest ih =>
    change check head >>= (fun _ => rest.forM check) = .ok done ↔ _
    rw [bind_eq_ok_iff, List.forall_mem_cons, ← ih]
    exact ⟨fun ⟨_, first, others⟩ => ⟨first, others⟩, fun ⟨first, others⟩ => ⟨(), first, others⟩⟩

theorem getLast?_filterMap_cons {α β : Type} (find : α → Option β) (first : α) (later : List α) :
    ((first :: later).filterMap find).getLast? =
      (later.filterMap find).getLast?.or (find first) := by
  rw [List.filterMap_cons]
  cases find first with
  | none => exact Option.or_none.symm
  | some found =>
    change (found :: later.filterMap find).getLast? = _
    rw [List.getLast?_cons]
    cases (later.filterMap find).getLast? <;> rfl

end SwapRelay
