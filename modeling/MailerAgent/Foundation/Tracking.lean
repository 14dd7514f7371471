import MailerAgent.Foundation.Process
import MailerAgent.Foundation.Table

/-!
# A table under the writes of a transaction

Follows the rows of one table through a list of writes. Each write leaves the
table alone, inserts a row, or changes one row within a relation. Then every row of
the resulting view comes from a stored row or from an inserted one, and neither
kind is lost.
-/

namespace Concurrent

open Relational

variable {Store Write Row : Type}

/-- What one write does to a table, and the row that it inserts. -/
inductive TableEffect
    (same : Row → Row → Prop)
    (before : Table Row) :
    Option Row → Table Row → Prop where
  | kept : TableEffect same before none before
  | inserted (row : Row) : TableEffect same before (some row) (before.insert row)
  | modified
      (key : Nat)
      (change : Row → Row)
      (allowed : ∀ row, before.get key = some row → same row (change row)) :
      TableEffect same before none (before.modify key change)

/-- The writes of a kind act on a table by insertions and allowed changes. -/
structure Tracks
    (apply : Store → Write → Option Store)
    (kind : Write → Prop)
    (table : Store → Table Row)
    (inserts : Write → Option Row)
    (same : Row → Row → Prop) : Prop where
  refl : ∀ row, same row row
  trans : ∀ first second third, same first second → same second third → same first third
  effect : ∀ {store result write}, kind write → apply store write = some result →
    TableEffect same (table store) (inserts write) (table result)

namespace TableEffect

variable {same : Row → Row → Prop} {before after : Table Row} {inserts : Option Row}

theorem extends_table
    (reflexive : ∀ row, same row row)
    (effect : TableEffect same before inserts after) :
    Table.Extends same before after := by
  cases effect with
  | kept => exact .refl reflexive before
  | inserted row => exact .insert reflexive before row
  | modified key change allowed => exact .modify reflexive allowed

/-- A wider relation. -/
theorem imp
    {wider : Row → Row → Prop}
    (effect : TableEffect same before inserts after)
    (implies : ∀ first second, same first second → wider first second) :
    TableEffect wider before inserts after := by
  cases effect with
  | kept => exact .kept
  | inserted row => exact .inserted row
  | modified key change allowed =>
      exact .modified key change fun row found => implies _ _ (allowed row found)

theorem get_inserted
    {row : Row}
    (effect : TableEffect same before inserts after)
    (inserted : inserts = some row) :
    ∃ key, after.get key = some row := by
  cases effect with
  | kept => cases inserted
  | inserted fresh =>
      obtain rfl := Option.some.inj inserted
      exact ⟨before.size, Table.get_insert_size before fresh⟩
  | modified key change allowed => cases inserted

theorem origin
    {key : Nat}
    {row : Row}
    (reflexive : ∀ row, same row row)
    (effect : TableEffect same before inserts after)
    (found : after.get key = some row) :
    (∃ old, before.get key = some old ∧ same old row) ∨ inserts = some row := by
  cases effect with
  | kept => exact .inl ⟨row, found, reflexive row⟩
  | inserted fresh =>
      rcases Table.get_insert_cases found with old | ⟨-, rfl⟩
      · exact .inl ⟨row, old, reflexive row⟩
      · exact .inr rfl
  | modified position change allowed =>
      obtain ⟨old, foundOld, rfl⟩ := Table.get_modify_cases found
      refine .inl ⟨old, foundOld, ?_⟩
      split
      · next here => exact allowed old (here ▸ foundOld)
      · exact reflexive old

end TableEffect

namespace Tracks

variable {apply : Store → Write → Option Store} {kind : Write → Prop}
variable {table : Store → Table Row} {inserts : Write → Option Row}
variable {same : Row → Row → Prop} {store view : Store} {writes : List Write}

/-- Stored rows stay. -/
theorem extends_table
    (tracks : Tracks apply kind table inserts same)
    (kinds : ∀ write ∈ writes, kind write)
    (applied : applyAll apply store writes = some view) :
    Table.Extends same (table store) (table view) := by
  induction writes generalizing store with
  | nil =>
      obtain rfl := Option.some.inj applied
      exact .refl tracks.refl _
  | cons write writes inductionHypothesis =>
      obtain ⟨middle, first, rest⟩ := Option.bind_eq_some_iff.mp applied
      refine ((tracks.effect (kinds write List.mem_cons_self) first).extends_table
        tracks.refl).trans tracks.trans ?_
      exact inductionHypothesis
        (fun other member => kinds other (List.mem_cons_of_mem write member)) rest

/-- Inserted rows stay. -/
theorem get_inserted
    {write : Write}
    {row : Row}
    (tracks : Tracks apply kind table inserts same)
    (kinds : ∀ write ∈ writes, kind write)
    (applied : applyAll apply store writes = some view)
    (member : write ∈ writes)
    (inserted : inserts write = some row) :
    ∃ key current, (table view).get key = some current ∧ same row current := by
  induction writes generalizing store with
  | nil => cases member
  | cons first writes inductionHypothesis =>
      obtain ⟨middle, here, rest⟩ := Option.bind_eq_some_iff.mp applied
      have later : ∀ other ∈ writes, kind other :=
        fun other member => kinds other (List.mem_cons_of_mem first member)
      rcases List.mem_cons.mp member with rfl | further
      · obtain ⟨key, found⟩ :=
          (tracks.effect (kinds _ List.mem_cons_self) here).get_inserted inserted
        obtain ⟨current, foundCurrent, kept⟩ := tracks.extends_table later rest key row found
        exact ⟨key, current, foundCurrent, kept⟩
      · exact inductionHypothesis later rest further

/-- Every row of the view is a stored or an inserted one. -/
theorem origin
    {key : Nat}
    {row : Row}
    (tracks : Tracks apply kind table inserts same)
    (kinds : ∀ write ∈ writes, kind write)
    (applied : applyAll apply store writes = some view)
    (found : (table view).get key = some row) :
    (∃ old, (table store).get key = some old ∧ same old row) ∨
      ∃ write ∈ writes, ∃ fresh, inserts write = some fresh ∧ same fresh row := by
  induction writes generalizing store with
  | nil =>
      obtain rfl := Option.some.inj applied
      exact .inl ⟨row, found, tracks.refl row⟩
  | cons first writes inductionHypothesis =>
      obtain ⟨middle, here, rest⟩ := Option.bind_eq_some_iff.mp applied
      have later : ∀ other ∈ writes, kind other :=
        fun other member => kinds other (List.mem_cons_of_mem first member)
      rcases inductionHypothesis later rest with ⟨old, foundOld, kept⟩ |
        ⟨write, member, fresh, inserted, kept⟩
      · rcases (tracks.effect (kinds first List.mem_cons_self) here).origin tracks.refl
          foundOld with ⟨older, foundOlder, keptOlder⟩ | inserted
        · exact .inl ⟨older, foundOlder, tracks.trans _ _ _ keptOlder kept⟩
        · exact .inr ⟨first, List.mem_cons_self, old, inserted, kept⟩
      · exact .inr ⟨write, List.mem_cons_of_mem first member, fresh, inserted, kept⟩

end Tracks
end Concurrent
