import SwapRelay.Table

/-!
# Look-ups in tables

What is found in a table after a change: under the key that has changed and under all others, after
many changes, each under a key of its own, and when keys are given in order.
-/

namespace SwapRelay

theorem Word.lt_of_val_eq_succ {n : Nat} {word next : Word n} (follows : next.val = word.val + 1) :
    word < next :=
  Nat.lt_of_succ_le (Nat.le_of_eq follows.symm)

namespace Table

variable {n : Nat} {α β : Type} {table : Table n α} {key other bound : Word n}

theorem get?_insert_self (table : Table n α) (key : Word n) (value : α) :
    (table.insert key value).get? key = some value := by
  rw [get?_insert, if_pos rfl]

theorem get?_insert_of_ne {value : α} (different : other ≠ key) :
    (table.insert key value).get? other = table.get? other := by
  rw [get?_insert, if_neg different]

theorem get?_erase_self (table : Table n α) (key : Word n) : (table.erase key).get? key = none := by
  rw [get?_erase, if_pos rfl]

theorem get?_erase_of_ne (different : other ≠ key) :
    (table.erase key).get? other = table.get? other := by
  rw [get?_erase, if_neg different]

theorem get?_erase_of_vacant (key : Word n) (vacant : table.get? other = none) :
    (table.erase key).get? other = none := by
  rw [get?_erase, vacant, ite_self]

theorem get?_eq_some_of_erase {value : α} (held : (table.erase key).get? other = some value) :
    table.get? other = some value := by
  by_cases same : other = key
  · rw [same, get?_erase_self] at held
    cases held
  · rwa [get?_erase_of_ne same] at held

theorem get?_insert_of_vacant {value found : α} (vacant : table.get? key = none)
    (held : table.get? other = some found) : (table.insert key value).get? other = some found := by
  have different : other ≠ key := by
    intro same
    rw [same, vacant] at held
    cases held
  rw [get?_insert_of_ne different, held]

theorem get?_erase_of_held {found : α} (key : Word n)
    (held : table.get? other = some found) :
    (table.erase key).get? other = some found ∨ (table.erase key).get? other = none := by
  rw [get?_erase]
  split
  · exact .inr rfl
  · exact .inl held

/-- The table with another value under a key, or with none. -/
def put (table : Table n α) (key : Word n) : Option α → Table n α
  | some value => table.insert key value
  | none => table.erase key

theorem get?_put (table : Table n α) (key other : Word n) (value? : Option α) :
    (table.put key value?).get? other = if other = key then value? else table.get? other := by
  cases value? with
  | some value => exact get?_insert ..
  | none => exact get?_erase ..

theorem mem_values_iff {value : α} :
    value ∈ table.values ↔ ∃ key, table.get? key = some value := by
  simp [values, get?_eq_some_iff_mem]

/-- Changes that are written one by one, each under its own key, are all there in the end. -/
theorem get?_foldl {write : Table n α → Word n × β → Table n α} (change : β → Option α → Option α)
    (get?_write : ∀ table entry key, (write table entry).get? key =
      if key = entry.1 then change entry.2 (table.get? key) else table.get? key)
    (staged : Table n β) (table : Table n α) (key : Word n) :
    (staged.entries.foldl write table).get? key =
      match staged.get? key with
      | some value => change value (table.get? key)
      | none => table.get? key := by
  obtain ⟨entries, ascending⟩ := staged
  change _ = match entries.lookup key with | some value => _ | none => _
  induction entries generalizing table with
  | nil => rfl
  | cons head rest ih =>
    obtain ⟨above, tail⟩ := List.pairwise_cons.mp ascending
    rw [List.foldl_cons, ih _ tail, get?_write, lookup_cons_eq_ite]
    by_cases here : key = head.1
    · -- The key of the first change does not come again.
      have last : rest.lookup key = none := by
        refine List.lookup_eq_none_iff.mpr fun entry later => ?_
        rw [here]
        exact bne_iff_ne.mpr (Fin.ne_of_lt (above entry later))
      rw [if_pos here, if_pos here, last]
    · rw [if_neg here, if_neg here]

def Below (table : Table n α) (bound : Word n) : Prop :=
  ∀ key value, table.get? key = some value → key < bound

theorem Below.empty : (empty : Table n α).Below bound := by
  intro key value held
  cases held

theorem Below.get?_eq_none (below : table.Below bound) : table.get? bound = none := by
  cases held : table.get? bound with
  | none => rfl
  | some value => exact absurd (below bound value held) (Nat.lt_irrefl _)

theorem Below.insert (below : table.Below key) (value : α) (follows : bound.val = key.val + 1) :
    (table.insert key value).Below bound := by
  intro other found held
  rw [get?_insert] at held
  split at held
  · rename_i same
    rw [same]
    exact Word.lt_of_val_eq_succ follows
  · exact Fin.lt_trans (below other found held) (Word.lt_of_val_eq_succ follows)

theorem Below.erase (below : table.Below bound) (key : Word n) : (table.erase key).Below bound := by
  intro other value held
  exact below other value (get?_eq_some_of_erase held)

end Table
end SwapRelay
