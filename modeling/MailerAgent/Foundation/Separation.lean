import MailerAgent.Foundation.Selection

/-!
# Changes that a selection does not see

Two tables agree on the selected rows after any change of a row that is selected in
neither, and agreement is kept from table to table.
-/

namespace Relational
namespace Table

universe u

/-- The rows satisfying a condition, under their keys. -/
def entriesWhere
    {Row : Type u}
    (table : Table Row)
    (condition : Row → Bool) :
    List (Nat × Row) :=
  (table.keysWhere condition).filterMap fun key => (table.get key).map fun row => (key, row)

/-- The first row satisfying a condition, under its key. -/
theorem firstWhere_entry
    {Row : Type u}
    (table : Table Row)
    (condition : Row → Bool) :
    ((table.firstWhere condition).bind fun key => (table.get key).map fun row => (key, row)) =
      (table.entriesWhere condition).head? := by
  unfold firstWhere entriesWhere
  cases keys : table.keysWhere condition with
  | nil => rfl
  | cons key rest =>
      have member : key ∈ table.keysWhere condition := keys ▸ List.mem_cons_self
      obtain ⟨row, found, -⟩ := (mem_keysWhere _ _ _).mp member
      simp [found]

namespace Agrees

variable {Row : Type u} {first second third : Table Row} {table : Table Row}
variable {own otherOwn thirdOwn : Row → Bool}

theorem trans
    (left : Agrees first second own otherOwn)
    (right : Agrees second third otherOwn thirdOwn) :
    Agrees first third own thirdOwn :=
  fun key => (left key).trans (right key)

/-- One table under conditions that mean the same of its rows. -/
theorem of_same
    (same : ∀ key row, table.get key = some row → own row = otherOwn row) :
    Agrees table table own otherOwn := by
  intro key
  cases found : table.get key with
  | none => rfl
  | some row => rw [Option.filter_some, Option.filter_some, same key row found]

/-- A new row that is not selected. -/
theorem insert
    (agrees : Agrees table table own otherOwn)
    {row : Row}
    (foreign : otherOwn row = false) :
    Agrees table (table.insert row) own otherOwn := by
  intro key
  rw [get_insert]
  split
  · next here =>
      rw [here, table.get_eq_none_of_size_le (Nat.le_refl _), Option.filter_some, foreign]
      rfl
  · exact agrees key

/-- A row that is selected neither before nor after its change. -/
theorem modify
    (agrees : Agrees table table own otherOwn)
    {position : Nat}
    {change : Row → Row}
    (foreign : ∀ row, table.get position = some row →
      own row = false ∧ otherOwn (change row) = false) :
    Agrees table (table.modify position change) own otherOwn := by
  intro key
  rw [get_modify]
  split
  · next here =>
      subst here
      cases found : table.get key with
      | none => rfl
      | some row =>
          obtain ⟨before, after⟩ := foreign row found
          rw [Option.map_some, Option.filter_some, Option.filter_some, before, after]
          rfl
  · exact agrees key

/-- Queries whose conditions mean the same of the selected rows, and hold of no others, find
the same rows. -/
theorem entriesWhere_eq
    (agrees : Agrees first second own otherOwn)
    {condition other : Row → Bool}
    (implies : ∀ row, condition row = true → own row = true)
    (otherImplies : ∀ row, other row = true → otherOwn row = true)
    (same : ∀ key row, first.get key = some row → second.get key = some row →
      own row = true → condition row = other row) :
    first.entriesWhere condition = second.entriesWhere other := by
  unfold entriesWhere
  rw [← keysWhere_congr (agrees.any_eq implies otherImplies same)]
  refine List.filterMap_congr fun key member => ?_
  obtain ⟨row, found, holds⟩ := (mem_keysWhere _ _ _).mp member
  rw [found, (agrees.get found (implies row holds)).1]

end Agrees
end Table
end Relational
