import MailerAgent.Foundation.Table

/-!
# Selections

The rows of a table that satisfy a condition, without their keys. Two tables whose
selections are equal cannot be told apart by anything that reads only the selected
rows, wherever these are stored.
-/

namespace Relational
namespace Table

universe u
variable {Row : Type u}

/-- The rows satisfying a condition, in the order of their keys. -/
def select
    (table : Table Row)
    (condition : Row → Bool) : List Row :=
  table.rows.filter condition

/-- Rewrite the first of the rows that satisfies a condition. -/
def modifyFirst
    (condition : Row → Bool)
    (change : Row → Row) : List Row → List Row
  | [] => []
  | row :: rest =>
      if condition row then change row :: rest
      else row :: modifyFirst condition change rest

theorem keysWhere_cons
    (row : Row)
    (rest : List Row)
    (condition : Row → Bool) :
    keysWhere ⟨row :: rest⟩ condition =
      (if condition row then [0] else []) ++ (keysWhere ⟨rest⟩ condition).map (· + 1) := by
  unfold keysWhere
  simp only [size, List.length_cons, List.range_succ_eq_map, List.filter_cons,
    List.filter_map]
  cases holds : condition row with
  | true => simp [get, holds, Function.comp_def]
  | false => simp [get, holds, Function.comp_def]

theorem filterMap_keysWhere
    (table : Table Row)
    (condition : Row → Bool) :
    (table.keysWhere condition).filterMap table.get = table.select condition := by
  obtain ⟨rows⟩ := table
  induction rows with
  | nil => rfl
  | cons row rest inductionHypothesis =>
      rw [keysWhere_cons, List.filterMap_append, List.filterMap_map]
      have shifted : (get ⟨row :: rest⟩ ∘ fun key => key + 1) = get ⟨rest⟩ := rfl
      rw [shifted, inductionHypothesis]
      unfold select
      cases holds : condition row with
      | true => simp [get, holds]
      | false => simp [holds]

theorem select_insert
    (table : Table Row)
    (row : Row)
    (condition : Row → Bool) :
    (table.insert row).select condition = table.select condition ++ [row].filter condition :=
  List.filter_append _ _

theorem mem_select
    {table : Table Row}
    {condition : Row → Bool}
    {row : Row} :
    row ∈ table.select condition ↔
      condition row = true ∧ ∃ key, table.get key = some row := by
  unfold select get
  rw [List.mem_filter, List.mem_iff_getElem?, and_comm]

/-- The first row satisfying a condition. -/
theorem firstWhere_bind_get
    (table : Table Row)
    (condition : Row → Bool) :
    (table.firstWhere condition).bind table.get = (table.select condition).head? := by
  rw [← filterMap_keysWhere]
  unfold firstWhere
  cases keys : table.keysWhere condition with
  | nil => rfl
  | cons key rest =>
      have member : key ∈ table.keysWhere condition := keys ▸ List.mem_cons_self
      obtain ⟨row, found, -⟩ := (mem_keysWhere _ _ _).mp member
      simp [found]

/-- A condition is decided on any selection that contains its rows. -/
theorem existsWhere_eq_any_select
    {table : Table Row}
    {condition : Row → Bool}
    (wider : Row → Bool)
    (implied : ∀ key row, table.get key = some row → condition row = true →
      wider row = true) :
    table.existsWhere condition = (table.select wider).any condition := by
  rw [Bool.eq_iff_iff, existsWhere_iff, List.any_eq_true]
  constructor
  · rintro ⟨key, row, found, holds⟩
    exact ⟨row, mem_select.mpr ⟨implied key row found holds, key, found⟩, holds⟩
  · rintro ⟨row, member, holds⟩
    obtain ⟨-, key, found⟩ := mem_select.mp member
    exact ⟨key, row, found, holds⟩

theorem select_select
    (table : Table Row)
    {condition : Row → Bool}
    (wider : Row → Bool)
    (implied : ∀ row, condition row = true → wider row = true) :
    table.select condition = (table.select wider).filter condition := by
  unfold select
  rw [List.filter_filter]
  refine List.filter_congr fun row _ => ?_
  cases holds : condition row with
  | true => simp [implied row holds]
  | false => rfl

theorem existsWhere_insert
    (table : Table Row)
    (row : Row)
    (condition : Row → Bool) :
    (table.insert row).existsWhere condition =
      (table.existsWhere condition || condition row) := by
  simp [existsWhere, insert]

/-- A condition that an update does not touch. -/
theorem existsWhere_modify
    {condition : Row → Bool}
    {change : Row → Row}
    (kept : ∀ row, condition (change row) = condition row)
    (table : Table Row)
    (key : Nat) :
    (table.modify key change).existsWhere condition = table.existsWhere condition := by
  rw [Bool.eq_iff_iff, existsWhere_iff, existsWhere_iff]
  constructor
  · rintro ⟨other, row, found, holds⟩
    obtain ⟨before, foundBefore, same⟩ := get_modify_cases found
    refine ⟨other, before, foundBefore, ?_⟩
    split at same
    · rw [same, kept] at holds
      exact holds
    · rwa [same] at holds
  · rintro ⟨other, row, found, holds⟩
    refine ⟨other, if other = key then change row else row, ?_, ?_⟩
    · rw [get_modify, found]
      split <;> rfl
    · split
      · rw [kept]
        exact holds
      · exact holds

theorem modify_firstWhere_rows
    (table : Table Row)
    (condition : Row → Bool)
    (change : Row → Row) :
    ((table.firstWhere condition).elim table fun key => table.modify key change).rows =
      modifyFirst condition change table.rows := by
  obtain ⟨rows⟩ := table
  induction rows with
  | nil => rfl
  | cons row rest inductionHypothesis =>
      unfold firstWhere at inductionHypothesis ⊢
      rw [keysWhere_cons]
      unfold modifyFirst
      cases holds : condition row with
      | true => rfl
      | false =>
          simp only [Bool.false_eq_true, if_false, List.nil_append, List.head?_map]
          rw [← inductionHypothesis]
          cases (keysWhere ⟨rest⟩ condition).head? with
          | none => rfl
          | some key => rfl

theorem filter_modifyFirst
    {condition wider : Row → Bool}
    {change : Row → Row}
    (implied : ∀ row, condition row = true → wider row = true)
    (kept : ∀ row, wider (change row) = wider row)
    (rows : List Row) :
    (modifyFirst condition change rows).filter wider =
      modifyFirst condition change (rows.filter wider) := by
  induction rows with
  | nil => rfl
  | cons row rest inductionHypothesis =>
      cases holds : condition row with
      | true => simp [implied row holds, kept, modifyFirst, holds]
      | false =>
          cases inside : wider row with
          | true => simp [inside, modifyFirst, holds, inductionHypothesis]
          | false => simp [inside, modifyFirst, holds, inductionHypothesis]

/-- A guarded update of the first row is one of any selection that contains it. -/
theorem select_modify_firstWhere
    {condition wider : Row → Bool}
    (change : Row → Row)
    (implied : ∀ row, condition row = true → wider row = true)
    (kept : ∀ row, wider (change row) = wider row)
    (table : Table Row) :
    ((table.firstWhere condition).elim table fun key => table.modify key change).select wider =
      modifyFirst condition change (table.select wider) := by
  unfold select
  rw [modify_firstWhere_rows, filter_modifyFirst implied kept]

/-- A list without duplicates whose elements are all equal. -/
theorem length_le_one_of_nodup
    {keys : List Nat}
    (distinct : keys.Nodup)
    (same : ∀ first ∈ keys, ∀ second ∈ keys, first = second) :
    keys.length ≤ 1 := by
  rcases keys with _ | ⟨first, _ | ⟨second, rest⟩⟩
  · exact Nat.zero_le 1
  · exact Nat.le_refl 1
  · have equal := same first (by simp) second (by simp)
    simp [equal] at distinct

/-- A condition that fixes a unique key selects at most one row. -/
theorem UniqueBy.length_select_le_one
    {Key : Type u}
    {table : Table Row}
    {key : Row → Option Key}
    (unique : table.UniqueBy key)
    {condition : Row → Bool}
    {value : Key}
    (keyed : ∀ row, condition row = true → key row = some value) :
    (table.select condition).length ≤ 1 := by
  rw [← filterMap_keysWhere]
  refine Nat.le_trans (List.length_filterMap_le _ _) ?_
  have same : ∀ first ∈ table.keysWhere condition, ∀ second ∈ table.keysWhere condition,
      first = second := by
    intro first inside second insideToo
    obtain ⟨row, found, holds⟩ := (mem_keysWhere _ _ _).mp inside
    obtain ⟨other, foundOther, holdsOther⟩ := (mem_keysWhere _ _ _).mp insideToo
    exact unique _ _ _ _ value found foundOther (keyed row holds) (keyed other holdsOther)
  exact length_le_one_of_nodup (table.nodup_keysWhere condition) same

/-! ## Agreement -/

/-- Two tables hold the same selected rows under the same keys. -/
def Agrees
    (first second : Table Row)
    (own : Row → Bool)
    (otherOwn : Row → Bool) : Prop :=
  ∀ key, (first.get key).filter own = (second.get key).filter otherOwn

instance [DecidableEq Row] (first second : Table Row) (own otherOwn : Row → Bool) :
    Decidable (Agrees first second own otherOwn) :=
  decidable_of_iff
    (∀ key < max first.size second.size,
      (first.get key).filter own = (second.get key).filter otherOwn) <| by
    refine ⟨fun below key => ?_, fun agrees key _ => agrees key⟩
    by_cases inside : key < max first.size second.size
    · exact below key inside
    · rw [first.get_eq_none_of_size_le (by omega), second.get_eq_none_of_size_le (by omega)]
      rfl

theorem keysWhere_eq_filter_range
    (table : Table Row)
    (condition : Row → Bool)
    (extra : Nat) :
    table.keysWhere condition =
      (List.range (table.size + extra)).filter fun key => (table.get key).any condition := by
  rw [List.range_add, List.filter_append]
  have beyond : ((List.range extra).map (table.size + ·)).filter
      (fun key => (table.get key).any condition) = [] := by
    rw [List.filter_eq_nil_iff]
    intro key member
    obtain ⟨offset, -, rfl⟩ := List.mem_map.mp member
    rw [table.get_eq_none_of_size_le (Nat.le_add_right _ _)]
    exact Bool.false_ne_true
  rw [beyond, List.append_nil]
  rfl

/-- Key lists are determined by what each key holds. -/
theorem keysWhere_congr
    {first second : Table Row}
    {condition other : Row → Bool}
    (same : ∀ key, (first.get key).any condition = (second.get key).any other) :
    first.keysWhere condition = second.keysWhere other := by
  rw [keysWhere_eq_filter_range first condition second.size,
    keysWhere_eq_filter_range second other first.size, Nat.add_comm second.size]
  exact List.filter_congr fun key _ => same key

namespace Agrees

variable {first second : Table Row} {own otherOwn : Row → Bool}

theorem get
    (agrees : Agrees first second own otherOwn)
    {key : Nat}
    {row : Row}
    (found : first.get key = some row)
    (mine : own row = true) :
    second.get key = some row ∧ otherOwn row = true := by
  have same := agrees key
  rw [found, Option.filter_some, if_pos mine] at same
  exact Option.filter_eq_some_iff.mp same.symm

theorem symm (agrees : Agrees first second own otherOwn) :
    Agrees second first otherOwn own :=
  fun key => (agrees key).symm

/-- Conditions on selected rows that mean the same hold of the same keys. -/
theorem any_eq
    (agrees : Agrees first second own otherOwn)
    {condition other : Row → Bool}
    (implies : ∀ row, condition row = true → own row = true)
    (otherImplies : ∀ row, other row = true → otherOwn row = true)
    (same : ∀ key row, first.get key = some row → second.get key = some row →
      own row = true → condition row = other row)
    (key : Nat) :
    (first.get key).any condition = (second.get key).any other := by
  rw [Bool.eq_iff_iff, Option.any_eq_true, Option.any_eq_true]
  constructor
  · rintro ⟨row, found, holds⟩
    obtain ⟨foundSecond, -⟩ := agrees.get found (implies row holds)
    exact ⟨row, foundSecond, same key row found foundSecond (implies row holds) ▸ holds⟩
  · rintro ⟨row, found, holds⟩
    obtain ⟨foundFirst, mine⟩ := agrees.symm.get found (otherImplies row holds)
    exact ⟨row, foundFirst, (same key row foundFirst found mine).symm ▸ holds⟩

theorem select_eq (agrees : Agrees first second own otherOwn) :
    first.select own = second.select otherOwn := by
  have keys : first.keysWhere own = second.keysWhere otherOwn :=
    keysWhere_congr (agrees.any_eq (fun _ => id) (fun _ => id) fun key row found _ mine =>
      mine.trans (agrees.get found mine).2.symm)
  rw [← filterMap_keysWhere, ← filterMap_keysWhere, ← keys]
  refine List.filterMap_congr fun key member => ?_
  obtain ⟨row, found, mine⟩ := (mem_keysWhere _ _ _).mp member
  rw [found, (agrees.get found mine).1]

end Agrees
end Table
end Relational
