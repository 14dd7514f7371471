import Mathlib.Data.List.Nodup
import Mathlib.Data.List.Perm.Subperm
import MailerAgent.Foundation.Table

/-!
# Counting rows

The number of rows of a table that satisfy a condition, and how it compares with the
entries of a log that concern the rows.
-/

namespace Relational
namespace Table

universe u v

variable {Row : Type u} {Entry : Type v} {table : Table Row} {condition : Row → Bool}

/-- `count(*)` of the rows that satisfy a condition. -/
def countWhere
    (table : Table Row)
    (condition : Row → Bool) : Nat :=
  table.rows.countP condition

theorem length_keysWhere
    (table : Table Row)
    (condition : Row → Bool) :
    (table.keysWhere condition).length = table.countWhere condition := by
  have rows : (List.range table.size).map table.get = table.rows.map some := by
    apply List.ext_getElem
    · simp [size]
    · intro key inRange inRows
      simp only [List.length_map] at inRows
      simp [get, inRows]
  have holds : (fun key => table.holdsAt key condition) =
      (fun found : Option Row => found.any condition) ∘ table.get := rfl
  calc (table.keysWhere condition).length
      = (List.range table.size).countP (fun key => table.holdsAt key condition) :=
        List.countP_eq_length_filter.symm
    _ = ((List.range table.size).map table.get).countP fun found => found.any condition := by
        rw [holds, ← List.countP_map]
    _ = (table.rows.map some).countP fun found => found.any condition := by rw [rows]
    _ = table.countWhere condition := List.countP_map

/-! ## The first rows -/

theorem pairwise_keysWhere
    (table : Table Row)
    (condition : Row → Bool) :
    (table.keysWhere condition).Pairwise (· < ·) :=
  List.pairwise_lt_range.filter _

/-- A row that is not among the first ones has as many before it. -/
theorem before_of_not_mem_take
    {key limit : Nat}
    (member : key ∈ table.keysWhere condition)
    (behind : key ∉ (table.keysWhere condition).take limit) :
    ((table.keysWhere condition).take limit).length = limit ∧
      ∀ other ∈ (table.keysWhere condition).take limit, other < key := by
  obtain ⟨position, inside, here⟩ := List.getElem_of_mem member
  have beyond : limit ≤ position := by
    by_contra within
    exact behind (List.mem_take_iff_getElem.mpr ⟨position, by omega, here⟩)
  constructor
  · rw [List.length_take]
    omega
  · intro other first
    obtain ⟨index, within, same⟩ := List.mem_take_iff_getElem.mp first
    have ordered := List.pairwise_iff_getElem.mp (table.pairwise_keysWhere condition)
      index position (by omega) inside (by omega)
    rw [same, here] at ordered
    exact ordered

/-! ## Rows and a log -/

section Log

variable {log : List Entry} {counts : Entry → Bool} (concerns : Entry → Option Nat)

/-- There are at most as many rows as entries, if each row has an entry of its own. -/
theorem countWhere_le_countP
    (entered : ∀ key row, table.get key = some row → condition row = true →
      ∃ entry ∈ log, counts entry = true ∧ concerns entry = some key) :
    table.countWhere condition ≤ log.countP counts := by
  have keys : table.keysWhere condition ⊆ (log.filter counts).filterMap concerns := by
    intro key member
    obtain ⟨row, found, holds⟩ := (table.mem_keysWhere condition key).mp member
    obtain ⟨entry, logged, counted, concerned⟩ := entered key row found holds
    exact List.mem_filterMap.mpr ⟨entry, List.mem_filter.mpr ⟨logged, counted⟩, concerned⟩
  calc table.countWhere condition
      = (table.keysWhere condition).length := (table.length_keysWhere condition).symm
    _ ≤ ((log.filter counts).filterMap concerns).length :=
        ((table.nodup_keysWhere condition).subperm keys).length_le
    _ ≤ (log.filter counts).length := List.length_filterMap_le ..
    _ = log.countP counts := List.countP_eq_length_filter.symm

/-- There are at most as many entries as rows, if no row has two entries. -/
theorem countP_le_countWhere
    (concerned : ∀ entry ∈ log, counts entry = true →
      ∃ key row, concerns entry = some key ∧ table.get key = some row ∧
        condition row = true)
    (single : ∀ key, log.countP (fun entry => counts entry && concerns entry == some key) ≤ 1) :
    log.countP counts ≤ table.countWhere condition := by
  have all : ∀ entry ∈ log.filter counts, (concerns entry).isSome = true := by
    intro entry member
    obtain ⟨logged, counted⟩ := List.mem_filter.mp member
    obtain ⟨key, row, concern, -⟩ := concerned entry logged counted
    rw [concern]
    rfl
  have distinct : ((log.filter counts).filterMap concerns).Nodup := by
    refine List.nodup_iff_count_le_one.mpr fun key => ?_
    refine Nat.le_trans (Nat.le_of_eq ?_) (single key)
    rw [List.count_filterMap, List.countP_filter]
    exact List.countP_congr fun entry _ => by rw [Bool.and_comm]
  have keys : (log.filter counts).filterMap concerns ⊆ table.keysWhere condition := by
    intro key member
    obtain ⟨entry, present, concern⟩ := List.mem_filterMap.mp member
    obtain ⟨logged, counted⟩ := List.mem_filter.mp present
    obtain ⟨same, row, concernSame, found, holds⟩ := concerned entry logged counted
    obtain rfl : same = key := Option.some.inj (concernSame.symm.trans concern)
    exact (table.mem_keysWhere condition same).mpr ⟨row, found, holds⟩
  calc log.countP counts
      = (log.filter counts).length := List.countP_eq_length_filter
    _ = ((log.filter counts).filterMap concerns).length :=
        (List.filterMap_length_eq_length.mpr all).symm
    _ ≤ (table.keysWhere condition).length := (distinct.subperm keys).length_le
    _ = table.countWhere condition := table.length_keysWhere condition

end Log

end Table
end Relational
