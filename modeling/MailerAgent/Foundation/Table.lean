import Mathlib.Data.List.Basic

/-!
# Tables with generated primary keys

A table is the sequence of rows that were ever inserted; the primary key of a
row is its position. Nothing is deleted, so a key stays valid once it was handed
out and two rows never share one. A guarded update rewrites the addressed row
only if its condition holds there, and reports whether it did: the row count of
an `UPDATE ... WHERE id = ? AND ...` statement.
-/

namespace Relational

universe u

/-- Rows in insertion order, addressed by position. -/
structure Table (Row : Type u) where
  rows : List Row
  deriving DecidableEq, Repr

namespace Table

variable {Row : Type u}

/-- The table without rows. -/
def empty : Table Row := ⟨[]⟩

/-- The key that the next inserted row receives. -/
def size (table : Table Row) : Nat := table.rows.length

/-- The row stored under a key. -/
def get
    (table : Table Row)
    (key : Nat) : Option Row := table.rows[key]?

/-- Append a row under a fresh key. -/
def insert
    (table : Table Row)
    (row : Row) : Table Row := ⟨table.rows ++ [row]⟩

/-- Rewrite the row under a key; an unknown key changes nothing. -/
def modify
    (table : Table Row)
    (key : Nat)
    (change : Row → Row) : Table Row :=
  ⟨table.rows.modify key change⟩

/-- Keys of the rows satisfying a condition, in ascending order. -/
def keysWhere
    (table : Table Row)
    (condition : Row → Bool) : List Nat :=
  (List.range table.size).filter fun key => (table.get key).any condition

/-- The least key whose row satisfies a condition. -/
def firstWhere
    (table : Table Row)
    (condition : Row → Bool) : Option Nat :=
  (table.keysWhere condition).head?

/-- Whether some row satisfies a condition. -/
def existsWhere
    (table : Table Row)
    (condition : Row → Bool) : Bool :=
  table.rows.any condition

/-- Whether the row under a key exists and satisfies a condition. -/
def holdsAt
    (table : Table Row)
    (key : Nat)
    (condition : Row → Bool) : Bool :=
  (table.get key).any condition

/-- Guarded update of one row. `none` is a row count of zero. -/
def updateWhere
    (table : Table Row)
    (key : Nat)
    (condition : Row → Bool)
    (change : Row → Row) : Option (Table Row) :=
  if table.holdsAt key condition then some (table.modify key change) else none

@[simp] theorem get_empty (key : Nat) : (empty : Table Row).get key = none := rfl

/-- Tables with the same rows under the same keys are equal. -/
theorem ext_get
    {first second : Table Row}
    (same : ∀ key, first.get key = second.get key) :
    first = second := by
  cases first
  cases second
  congr 1
  exact List.ext_getElem? same

theorem not_found_empty
    {key : Nat}
    {row : Row}
    {conclusion : Prop}
    (found : (empty : Table Row).get key = some row) :
    conclusion := by
  rw [get_empty] at found
  cases found

@[simp] theorem size_empty : (empty : Table Row).size = 0 := rfl

@[simp] theorem size_insert
    (table : Table Row)
    (row : Row) :
    (table.insert row).size = table.size + 1 := by
  simp [insert, size]

@[simp] theorem size_modify
    (table : Table Row)
    (key : Nat)
    (change : Row → Row) :
    (table.modify key change).size = table.size := by
  simp [modify, size]

theorem get_insert
    (table : Table Row)
    (row : Row)
    (key : Nat) :
    (table.insert row).get key =
      if key = table.size then some row else table.get key := by
  unfold insert get size
  by_cases atEnd : key = table.rows.length
  · subst atEnd
    simp
  · rw [if_neg atEnd]
    by_cases inside : key < table.rows.length
    · exact List.getElem?_append_left inside
    · have beyond : table.rows.length + 1 ≤ key := by omega
      rw [List.getElem?_eq_none (Nat.le_of_not_lt inside)]
      exact List.getElem?_eq_none (by simpa using beyond)

@[simp] theorem get_insert_size
    (table : Table Row)
    (row : Row) :
    (table.insert row).get table.size = some row := by
  simp [get_insert]

theorem get_modify
    (table : Table Row)
    (key other : Nat)
    (change : Row → Row) :
    (table.modify key change).get other =
      if other = key then (table.get other).map change else table.get other := by
  unfold modify get
  rw [List.getElem?_modify]
  by_cases same : other = key
  · simp [same]
  · have different : ¬key = other := fun equal => same equal.symm
    rw [if_neg same]
    simp [different]

@[simp] theorem get_modify_self
    (table : Table Row)
    (key : Nat)
    (change : Row → Row) :
    (table.modify key change).get key = (table.get key).map change := by
  simp [get_modify]

theorem get_modify_of_ne
    (table : Table Row)
    {key other : Nat}
    (change : Row → Row)
    (different : other ≠ key) :
    (table.modify key change).get other = table.get other := by
  simp [get_modify, different]

theorem get_eq_none_of_size_le
    (table : Table Row)
    {key : Nat}
    (beyond : table.size ≤ key) :
    table.get key = none :=
  List.getElem?_eq_none beyond

theorem lt_size_of_get
    {table : Table Row}
    {key : Nat}
    {row : Row}
    (found : table.get key = some row) :
    key < table.size := by
  by_contra beyond
  rw [table.get_eq_none_of_size_le (Nat.le_of_not_lt beyond)] at found
  cases found

theorem exists_get_of_lt_size
    {table : Table Row}
    {key : Nat}
    (inside : key < table.size) :
    ∃ row, table.get key = some row :=
  ⟨table.rows.get ⟨key, inside⟩, List.getElem?_eq_getElem inside⟩

/-- A stored row survives an insertion under its own key. -/
theorem get_insert_of_get
    {table : Table Row}
    {key : Nat}
    {stored : Row}
    (found : table.get key = some stored)
    (row : Row) :
    (table.insert row).get key = some stored := by
  rw [get_insert, if_neg (Nat.ne_of_lt (lt_size_of_get found))]
  exact found

/-- A row of an extended table is an old row or the inserted one. -/
theorem get_insert_cases
    {table : Table Row}
    {row stored : Row}
    {key : Nat}
    (found : (table.insert row).get key = some stored) :
    table.get key = some stored ∨ key = table.size ∧ stored = row := by
  rw [get_insert] at found
  split at found
  · next atEnd =>
      injection found with equal
      exact Or.inr ⟨atEnd, equal.symm⟩
  · exact Or.inl found

/-- A row of a modified table comes from the row under the same key. -/
theorem get_modify_cases
    {table : Table Row}
    {key other : Nat}
    {change : Row → Row}
    {stored : Row}
    (found : (table.modify key change).get other = some stored) :
    ∃ before, table.get other = some before ∧
      stored = if other = key then change before else before := by
  rw [get_modify] at found
  by_cases same : other = key
  · rw [if_pos same] at found
    obtain ⟨before, old, changed⟩ := Option.map_eq_some_iff.mp found
    exact ⟨before, old, by rw [if_pos same, changed]⟩
  · rw [if_neg same] at found
    exact ⟨stored, found, by rw [if_neg same]⟩

theorem holdsAt_iff
    (table : Table Row)
    (key : Nat)
    (condition : Row → Bool) :
    table.holdsAt key condition = true ↔
      ∃ row, table.get key = some row ∧ condition row = true := by
  unfold holdsAt
  cases table.get key <;> simp

theorem mem_keysWhere
    (table : Table Row)
    (condition : Row → Bool)
    (key : Nat) :
    key ∈ table.keysWhere condition ↔
      ∃ row, table.get key = some row ∧ condition row = true := by
  unfold keysWhere
  rw [List.mem_filter, List.mem_range]
  constructor
  · rintro ⟨-, holds⟩
    exact (table.holdsAt_iff key condition).mp holds
  · rintro ⟨row, found, holds⟩
    exact ⟨lt_size_of_get found, by simp [found, holds]⟩

theorem nodup_keysWhere
    (table : Table Row)
    (condition : Row → Bool) :
    (table.keysWhere condition).Nodup :=
  List.nodup_range.filter _

theorem firstWhere_eq_some
    {table : Table Row}
    {condition : Row → Bool}
    {key : Nat}
    (first : table.firstWhere condition = some key) :
    ∃ row, table.get key = some row ∧ condition row = true :=
  (table.mem_keysWhere condition key).mp (List.mem_of_head? first)

theorem firstWhere_eq_none
    {table : Table Row}
    {condition : Row → Bool} :
    table.firstWhere condition = none ↔
      ∀ key row, table.get key = some row → condition row = false := by
  unfold firstWhere
  rw [List.head?_eq_none_iff, List.eq_nil_iff_forall_not_mem]
  constructor
  · intro absent key row found
    by_contra holds
    exact absent key ((table.mem_keysWhere condition key).mpr
      ⟨row, found, by simpa using holds⟩)
  · intro absent key present
    obtain ⟨row, found, holds⟩ := (table.mem_keysWhere condition key).mp present
    rw [absent key row found] at holds
    cases holds

theorem existsWhere_iff
    (table : Table Row)
    (condition : Row → Bool) :
    table.existsWhere condition = true ↔
      ∃ key row, table.get key = some row ∧ condition row = true := by
  unfold existsWhere get
  rw [List.any_eq_true]
  constructor
  · rintro ⟨row, member, holds⟩
    obtain ⟨key, found⟩ := List.getElem?_of_mem member
    exact ⟨key, row, found, holds⟩
  · rintro ⟨key, row, found, holds⟩
    exact ⟨row, List.mem_of_getElem? found, holds⟩

theorem existsWhere_eq_false
    {table : Table Row}
    {condition : Row → Bool}
    (absent : table.existsWhere condition = false)
    {key : Nat}
    {row : Row}
    (found : table.get key = some row) :
    condition row = false := by
  by_contra holds
  have present : table.existsWhere condition = true :=
    (table.existsWhere_iff condition).mpr ⟨key, row, found, by simpa using holds⟩
  rw [absent] at present
  cases present

/-- What a successful guarded update found and what it left behind. -/
theorem updateWhere_eq_some
    {table updated : Table Row}
    {key : Nat}
    {condition : Row → Bool}
    {change : Row → Row}
    (applied : table.updateWhere key condition change = some updated) :
    (∃ row, table.get key = some row ∧ condition row = true) ∧
      updated = table.modify key change := by
  unfold updateWhere at applied
  split at applied
  · next holds =>
      injection applied with equal
      exact ⟨(table.holdsAt_iff key condition).mp holds, equal.symm⟩
  · cases applied

/-- Every row of the first table is still there in the second, changed at most
as the relation allows. -/
def Extends
    (related : Row → Row → Prop)
    (before after : Table Row) : Prop :=
  ∀ key row, before.get key = some row →
    ∃ kept, after.get key = some kept ∧ related row kept

section Extends

variable {related : Row → Row → Prop} {before middle after : Table Row}

theorem Extends.refl
    (reflexive : ∀ row, related row row)
    (table : Table Row) :
    Extends related table table :=
  fun _ row found => ⟨row, found, reflexive row⟩

theorem Extends.trans
    (transitive : ∀ first second third,
      related first second → related second third → related first third)
    (left : Extends related before middle)
    (right : Extends related middle after) :
    Extends related before after := by
  intro key row found
  obtain ⟨between, foundBetween, first⟩ := left key row found
  obtain ⟨kept, foundKept, second⟩ := right key between foundBetween
  exact ⟨kept, foundKept, transitive row between kept first second⟩

theorem Extends.insert
    (reflexive : ∀ row, related row row)
    (table : Table Row)
    (row : Row) :
    Extends related table (table.insert row) :=
  fun _ stored found => ⟨stored, get_insert_of_get found row, reflexive stored⟩

theorem Extends.modify
    (reflexive : ∀ row, related row row)
    {table : Table Row}
    {position : Nat}
    {change : Row → Row}
    (allowed : ∀ row, table.get position = some row → related row (change row)) :
    Extends related table (table.modify position change) := by
  intro key row found
  by_cases here : key = position
  · subst here
    exact ⟨change row, by rw [get_modify_self, found]; rfl, allowed row found⟩
  · exact ⟨row, by rw [get_modify_of_ne table change here, found], reflexive row⟩

theorem Extends.size_le (extended : Extends related before after) :
    before.size ≤ after.size := by
  by_contra smaller
  have inside : after.size < before.size := Nat.lt_of_not_le smaller
  obtain ⟨row, found⟩ := exists_get_of_lt_size inside
  obtain ⟨kept, foundKept, -⟩ := extended after.size row found
  rw [after.get_eq_none_of_size_le (Nat.le_refl _)] at foundKept
  cases foundKept

end Extends

/-- A unique index: two rows never share a key. Rows without a key (a NULL in
an indexed column, or a row outside a partial index) are unconstrained. -/
def UniqueBy
    {Key : Type u}
    (table : Table Row)
    (key : Row → Option Key) : Prop :=
  ∀ first second firstRow secondRow value,
    table.get first = some firstRow → table.get second = some secondRow →
    key firstRow = some value → key secondRow = some value → first = second

/-- Whether a row's key is already taken. -/
def clashes
    {Key : Type u}
    [DecidableEq Key]
    (table : Table Row)
    (key : Row → Option Key)
    (row : Row) : Bool :=
  (key row).any fun value => table.existsWhere fun stored => key stored == some value

section UniqueBy

variable {Key : Type u} {table : Table Row} {key : Row → Option Key}

theorem UniqueBy.empty : (empty : Table Row).UniqueBy key := by
  intro first second firstRow secondRow value found
  simp at found

theorem not_clashes
    [DecidableEq Key]
    {row : Row}
    (free : table.clashes key row = false)
    {value : Key}
    (valued : key row = some value)
    {position : Nat}
    {stored : Row}
    (found : table.get position = some stored) :
    key stored ≠ some value := by
  unfold clashes at free
  rw [valued] at free
  have differs := existsWhere_eq_false (by simpa using free) found
  simpa using differs

theorem UniqueBy.insert
    [DecidableEq Key]
    {row : Row}
    (unique : table.UniqueBy key)
    (free : table.clashes key row = false) :
    (table.insert row).UniqueBy key := by
  intro first second firstRow secondRow value firstFound secondFound
    firstValued secondValued
  rcases get_insert_cases firstFound with firstOld | ⟨firstNew, rfl⟩
  · rcases get_insert_cases secondFound with secondOld | ⟨-, rfl⟩
    · exact unique first second firstRow secondRow value firstOld secondOld
        firstValued secondValued
    · exact absurd firstValued (not_clashes free secondValued firstOld)
  · rcases get_insert_cases secondFound with secondOld | ⟨secondNew, -⟩
    · exact absurd secondValued (not_clashes free firstValued secondOld)
    · rw [firstNew, secondNew]

theorem UniqueBy.modify
    {position : Nat}
    {change : Row → Row}
    (unique : table.UniqueBy key)
    (kept : ∀ row, table.get position = some row → key (change row) = key row) :
    (table.modify position change).UniqueBy key := by
  intro first second firstRow secondRow value firstFound secondFound
    firstValued secondValued
  obtain ⟨firstBefore, firstOld, firstEqual⟩ := get_modify_cases firstFound
  obtain ⟨secondBefore, secondOld, secondEqual⟩ := get_modify_cases secondFound
  have sameKey : ∀ index row, table.get index = some row →
      key (if index = position then change row else row) = key row := by
    intro index row found
    split
    · next atPosition => exact kept row (atPosition ▸ found)
    · rfl
  rw [firstEqual, sameKey first firstBefore firstOld] at firstValued
  rw [secondEqual, sameKey second secondBefore secondOld] at secondValued
  exact unique first second firstBefore secondBefore value firstOld secondOld
    firstValued secondValued

/-- Giving one row a key that no other row has keeps the index unique. -/
theorem UniqueBy.modify_fresh
    {position : Nat}
    {change : Row → Row}
    (unique : table.UniqueBy key)
    (fresh : ∀ row value, table.get position = some row →
      key (change row) = some value →
      ∀ other stored, other ≠ position → table.get other = some stored →
        key stored ≠ some value) :
    (table.modify position change).UniqueBy key := by
  intro first second firstRow secondRow value firstFound secondFound
    firstValued secondValued
  obtain ⟨firstBefore, firstOld, firstEqual⟩ := get_modify_cases firstFound
  obtain ⟨secondBefore, secondOld, secondEqual⟩ := get_modify_cases secondFound
  by_cases firstHere : first = position
  · by_cases secondHere : second = position
    · rw [firstHere, secondHere]
    · rw [if_pos firstHere] at firstEqual
      rw [if_neg secondHere] at secondEqual
      rw [firstEqual] at firstValued
      rw [secondEqual] at secondValued
      exact absurd secondValued (fresh firstBefore value (firstHere ▸ firstOld)
        firstValued second secondBefore secondHere secondOld)
  · rw [if_neg firstHere] at firstEqual
    by_cases secondHere : second = position
    · rw [if_pos secondHere] at secondEqual
      rw [firstEqual] at firstValued
      rw [secondEqual] at secondValued
      exact absurd firstValued (fresh secondBefore value (secondHere ▸ secondOld)
        secondValued first firstBefore firstHere firstOld)
    · rw [if_neg secondHere] at secondEqual
      rw [firstEqual] at firstValued
      rw [secondEqual] at secondValued
      exact unique first second firstBefore secondBefore value firstOld secondOld
        firstValued secondValued

end UniqueBy

end Table
end Relational
