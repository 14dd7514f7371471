import Mathlib.Data.List.Nodup

/-!
# Tables under a unique key, with deletion

The rows of a table by a unique key, in the order of their insertion. A row is written
under its key, where it replaces the row that is there, and rows that satisfy a condition
are deleted.
-/

namespace Relational

universe u v

/-- Rows in insertion order, no two under one key. -/
structure Keyed
    (Key : Type u)
    (Row : Type v) where
  entries : List (Key × Row)
  distinct : (entries.map Prod.fst).Nodup

namespace Keyed

variable {Key : Type u} {Row : Type v}

/-- The table without rows. -/
def empty : Keyed Key Row := ⟨[], List.nodup_nil⟩

/-- Delete the rows that satisfy a condition. -/
def removeWhere
    (table : Keyed Key Row)
    (condition : Key → Row → Bool) : Keyed Key Row where
  entries := table.entries.filter fun entry => !condition entry.1 entry.2
  distinct := table.distinct.sublist (List.filter_sublist.map _)

variable [DecidableEq Key]

/-- The row under a key. -/
def get
    (table : Keyed Key Row)
    (key : Key) : Option Row :=
  (table.entries.find? fun entry => entry.1 = key).map Prod.snd

/-- The entry with a new row, if it is the one under the key. -/
def written
    (key : Key)
    (row : Row)
    (entry : Key × Row) : Key × Row :=
  if entry.1 = key then (key, row) else entry

theorem written_fst
    (key : Key)
    (row : Row)
    (entry : Key × Row) :
    (written key row entry).1 = entry.1 := by
  unfold written
  split
  · next here => exact here.symm
  · rfl

/-- Write a row under a key: a new key comes last. -/
def put
    (table : Keyed Key Row)
    (key : Key)
    (row : Row) : Keyed Key Row :=
  if present : key ∈ table.entries.map Prod.fst then
    { entries := table.entries.map (written key row)
      distinct := by
        rw [List.map_map, show Prod.fst ∘ written key row = Prod.fst from
          funext (written_fst key row)]
        exact table.distinct }
  else
    { entries := table.entries ++ [(key, row)]
      distinct := by
        rw [List.map_append, List.nodup_append]
        refine ⟨table.distinct, List.nodup_singleton key, ?_⟩
        rintro other member _ last rfl
        obtain rfl : other = key := List.mem_singleton.mp last
        exact present member }

/-! ## Rows and entries -/

variable {table : Keyed Key Row} {key other : Key} {row : Row}

/-- The row under a key is the one of its entry. -/
theorem get_eq_some_iff : table.get key = some row ↔ (key, row) ∈ table.entries := by
  constructor
  · intro found
    obtain ⟨⟨same, _⟩, chosen, rfl⟩ := Option.map_eq_some_iff.mp found
    obtain rfl : same = key := by simpa using List.find?_some chosen
    exact List.mem_of_find?_eq_some chosen
  · intro member
    cases chosen : table.entries.find? fun entry => entry.1 = key with
    | none => simpa using List.find?_eq_none.mp chosen _ member
    | some entry =>
        have here : entry.1 = key := by simpa using List.find?_some chosen
        have same : entry = (key, row) :=
          List.inj_on_of_nodup_map table.distinct (List.mem_of_find?_eq_some chosen) member here
        unfold get
        rw [chosen, same]
        rfl

@[simp] theorem get_empty : (empty : Keyed Key Row).get key = none := rfl

@[simp] theorem get_put_self : (table.put key row).get key = some row := by
  rw [get_eq_some_iff]
  unfold put
  split
  · next present =>
      obtain ⟨entry, member, here⟩ := List.mem_map.mp present
      exact List.mem_map.mpr ⟨entry, member, by simp [written, here]⟩
  · exact List.mem_append_right _ (List.mem_singleton.mpr rfl)

theorem get_put_of_ne (different : other ≠ key) :
    (table.put key row).get other = table.get other := by
  refine Option.ext fun found => ?_
  rw [get_eq_some_iff, get_eq_some_iff]
  unfold put
  split
  · constructor
    · intro member
      obtain ⟨entry, listed, here⟩ := List.mem_map.mp member
      unfold written at here
      split at here
      · cases here
        exact absurd rfl different
      · exact here ▸ listed
    · intro member
      exact List.mem_map.mpr ⟨_, member, by simp [written, different]⟩
  · constructor
    · intro member
      rcases List.mem_append.mp member with listed | last
      · exact listed
      · cases List.mem_singleton.mp last
        exact absurd rfl different
    · exact List.mem_append_left _

theorem get_removeWhere {condition : Key → Row → Bool} :
    (table.removeWhere condition).get key =
      (table.get key).filter fun row => !condition key row := by
  refine Option.ext fun found => ?_
  rw [get_eq_some_iff, Option.filter_eq_some_iff, get_eq_some_iff]
  exact List.mem_filter

/-- A row that does not satisfy the condition stays. -/
theorem get_removeWhere_of_not
    {condition : Key → Row → Bool}
    (kept : ∀ row, table.get key = some row → condition key row = false) :
    (table.removeWhere condition).get key = table.get key := by
  rw [get_removeWhere]
  cases found : table.get key with
  | none => rfl
  | some row => simp [Option.filter, kept row found]

/-- No row is left that satisfies the condition. -/
theorem get_removeWhere_of
    {condition : Key → Row → Bool}
    (removed : ∀ row, table.get key = some row → condition key row = true) :
    (table.removeWhere condition).get key = none := by
  rw [get_removeWhere]
  cases found : table.get key with
  | none => rfl
  | some row => simp [Option.filter, removed row found]

end Keyed
end Relational
