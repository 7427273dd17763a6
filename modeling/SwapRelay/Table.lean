import SwapRelay.Wire.Word

/-!
# Ordered tables

A table holds at most one value for each key and lists its entries by ascending key, so two tables
that answer every look-up alike are equal. Keys are words. Main statements: what a look-up answers
after an insertion or a removal (`Table.get?_insert`, `Table.get?_erase`) and that look-ups determine
the table (`Table.ext_get?`).
-/

namespace SwapRelay

/-- Values by ascending key. -/
structure Table (n : Nat) (α : Type) where
  entries : List (Word n × α)
  ascending : entries.Pairwise fun a b => a.1 < b.1
  deriving DecidableEq, Repr

namespace Table

variable {n : Nat} {α : Type}

/-- Puts an entry before the first one with a greater key, in place of one with the same key. -/
def insertEntry (key : Word n) (value : α) : List (Word n × α) → List (Word n × α)
  | [] => [(key, value)]
  | entry :: rest =>
    if key < entry.1 then (key, value) :: entry :: rest
    else if key = entry.1 then (key, value) :: rest
    else entry :: insertEntry key value rest

theorem eq_or_mem_of_mem_insertEntry {key : Word n} {value : α} {entries : List (Word n × α)}
    {entry : Word n × α} (mem : entry ∈ insertEntry key value entries) :
    entry = (key, value) ∨ entry ∈ entries := by
  induction entries with
  | nil => simpa [insertEntry] using mem
  | cons head rest ih =>
    unfold insertEntry at mem
    split at mem
    · simpa using mem
    · split at mem
      · rcases List.mem_cons.mp mem with rfl | mem
        · exact .inl rfl
        · exact .inr (List.mem_cons_of_mem _ mem)
      · rcases List.mem_cons.mp mem with rfl | mem
        · exact .inr List.mem_cons_self
        · exact (ih mem).imp_right (List.mem_cons_of_mem _)

theorem ascending_insertEntry (key : Word n) (value : α) {entries : List (Word n × α)}
    (ascending : entries.Pairwise fun a b => a.1 < b.1) :
    (insertEntry key value entries).Pairwise fun a b => a.1 < b.1 := by
  induction entries with
  | nil => simp [insertEntry]
  | cons head rest ih =>
    have ⟨above, tail⟩ := List.pairwise_cons.mp ascending
    unfold insertEntry
    split
    · rename_i below
      refine List.pairwise_cons.mpr ⟨fun entry mem => ?_, ascending⟩
      rcases List.mem_cons.mp mem with rfl | mem
      · exact below
      · exact Fin.lt_trans below (above entry mem)
    · rename_i notBelow
      split
      · rename_i same
        subst same
        exact List.pairwise_cons.mpr ⟨above, tail⟩
      · rename_i different
        refine List.pairwise_cons.mpr ⟨fun entry mem => ?_, ih tail⟩
        rcases eq_or_mem_of_mem_insertEntry mem with rfl | mem
        · exact Nat.lt_of_le_of_ne (Nat.le_of_not_lt notBelow)
            fun same => different (Fin.ext same.symm)
        · exact above entry mem

def empty : Table n α := ⟨[], .nil⟩

instance : Inhabited (Table n α) := ⟨empty⟩

def get? (table : Table n α) (key : Word n) : Option α := table.entries.lookup key

def insert (table : Table n α) (key : Word n) (value : α) : Table n α :=
  ⟨insertEntry key value table.entries, ascending_insertEntry key value table.ascending⟩

def erase (table : Table n α) (key : Word n) : Table n α :=
  ⟨table.entries.filter fun entry => entry.1 != key, table.ascending.filter _⟩

def values (table : Table n α) : List α := table.entries.map (·.2)

theorem lookup_cons_eq_ite (key : Word n) (entry : Word n × α) (rest : List (Word n × α)) :
    (entry :: rest).lookup key = if key = entry.1 then some entry.2 else rest.lookup key := by
  obtain ⟨first, value⟩ := entry
  rw [List.lookup_cons]
  by_cases here : key = first
  · rw [beq_iff_eq.mpr here, if_pos here]
  · rw [beq_eq_false_iff_ne.mpr here, if_neg here]

theorem lookup_insertEntry (key other : Word n) (value : α) (entries : List (Word n × α)) :
    (insertEntry key value entries).lookup other =
      if other = key then some value else entries.lookup other := by
  induction entries with
  | nil => exact lookup_cons_eq_ite ..
  | cons head rest ih =>
    unfold insertEntry
    split
    · exact lookup_cons_eq_ite ..
    · split
      · rename_i same
        subst same
        by_cases h : other = head.1 <;> simp [lookup_cons_eq_ite, h]
      · rename_i different
        by_cases h : other = head.1
        · simp [lookup_cons_eq_ite, h, Ne.symm different]
        · simp [lookup_cons_eq_ite, h, ih]

theorem lookup_filter_ne (key other : Word n) (entries : List (Word n × α)) :
    (entries.filter fun entry => entry.1 != key).lookup other =
      if other = key then none else entries.lookup other := by
  induction entries with
  | nil => simp
  | cons head rest ih =>
    by_cases removed : head.1 = key
    · by_cases h : other = key
      · subst h
        simpa [removed] using ih
      · simp [removed, h, lookup_cons_eq_ite, ih]
    · by_cases h : other = head.1
      · simp [removed, h, lookup_cons_eq_ite]
      · simp [removed, h, lookup_cons_eq_ite, ih]

@[simp] theorem get?_empty (key : Word n) : (empty : Table n α).get? key = none := rfl

theorem get?_insert (table : Table n α) (key other : Word n) (value : α) :
    (table.insert key value).get? other = if other = key then some value else table.get? other :=
  lookup_insertEntry key other value table.entries

theorem get?_erase (table : Table n α) (key other : Word n) :
    (table.erase key).get? other = if other = key then none else table.get? other :=
  lookup_filter_ne key other table.entries

theorem get?_eq_some_iff_mem {table : Table n α} {key : Word n} {value : α} :
    table.get? key = some value ↔ (key, value) ∈ table.entries := by
  constructor
  · intro found
    obtain ⟨front, back, split, -⟩ := List.lookup_eq_some_iff.mp found
    rw [split]
    exact List.mem_append_right front List.mem_cons_self
  · intro listed
    obtain ⟨front, back, split⟩ := List.append_of_mem listed
    have ascending := table.ascending
    rw [split, List.pairwise_append] at ascending
    refine List.lookup_eq_some_iff.mpr ⟨front, back, split, fun entry ahead => ?_⟩
    have below := ascending.2.2 entry ahead (key, value) List.mem_cons_self
    exact bne_iff_ne.mpr (Fin.ne_of_gt below)

theorem nodup (table : Table n α) : table.entries.Nodup := by
  refine table.ascending.imp fun below same => ?_
  rw [same] at below
  exact Fin.lt_irrefl _ below

theorem ext_get? {left right : Table n α} (same : ∀ key, left.get? key = right.get? key) :
    left = right := by
  have listed (entry : Word n × α) : entry ∈ left.entries ↔ entry ∈ right.entries := by
    rw [← get?_eq_some_iff_mem, same, get?_eq_some_iff_mem]
  have permuted := (List.perm_ext_iff_of_nodup left.nodup right.nodup).mpr listed
  have entries : left.entries = right.entries :=
    permuted.eq_of_pairwise (fun _ _ _ _ below above => absurd above (Fin.lt_asymm below))
      left.ascending right.ascending
  cases left
  cases right
  cases entries
  rfl

end Table
end SwapRelay
