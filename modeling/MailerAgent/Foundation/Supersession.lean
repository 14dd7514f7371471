import Mathlib.Data.Set.Insert
import Mathlib.Data.List.Induction

/-!
# Statements that replace earlier ones

A history of statements, each of which asserts a value and may take back another one.
The values in force are computed along the history; they are characterised by the last
statement that asserts them.
-/

namespace Supersession

universe u

/-- A value is asserted, and another one is taken back just before. -/
structure Statement (Value : Type u) where
  value : Value
  replaces : Option Value

variable {Value : Type u}

/-- The values in force after a statement. -/
def Statement.act
    (statement : Statement Value)
    (standing : Set Value) : Set Value :=
  insert statement.value {value ∈ standing | statement.replaces ≠ some value}

/-- The values in force after a history. -/
def inForce (statements : List (Statement Value)) : Set Value :=
  statements.foldl (fun standing statement => statement.act standing) ∅

@[simp] theorem inForce_nil : inForce ([] : List (Statement Value)) = ∅ := rfl

@[simp] theorem inForce_concat
    (statements : List (Statement Value))
    (last : Statement Value) :
    inForce (statements ++ [last]) = last.act (inForce statements) := by
  unfold inForce
  rw [List.foldl_append]
  rfl

theorem Statement.mem_act
    {statement : Statement Value}
    {standing : Set Value}
    {value : Value} :
    value ∈ statement.act standing ↔
      value = statement.value ∨ (value ∈ standing ∧ statement.replaces ≠ some value) := by
  simp [Statement.act]

/-- The last statement of a value, and that none after it takes the value back. -/
def LastAssertion
    (statements : List (Statement Value))
    (value : Value) : Prop :=
  ∃ before statement after,
    statements = before ++ statement :: after ∧ statement.value = value ∧
      (∀ later ∈ after, later.value ≠ value) ∧
      ∀ later ∈ after, later.replaces ≠ some value

theorem lastAssertion_concat
    {statements : List (Statement Value)}
    {last : Statement Value}
    {value : Value} :
    LastAssertion (statements ++ [last]) value ↔
      value = last.value ∨ (LastAssertion statements value ∧ last.replaces ≠ some value) := by
  constructor
  · rintro ⟨before, statement, after, split, asserts, final, kept⟩
    rcases List.eq_nil_or_concat after with rfl | ⟨after, other, rfl⟩
    · obtain ⟨-, same⟩ := List.append_inj' split rfl
      obtain rfl := List.singleton_inj.mp same
      exact .inl asserts.symm
    · rw [List.concat_eq_append] at split final kept
      rw [← List.cons_append, ← List.append_assoc] at split
      obtain ⟨rest, same⟩ := List.append_inj' split rfl
      obtain rfl := List.singleton_inj.mp same
      have inside : last ∈ after ++ [last] := List.mem_append_right _ List.mem_cons_self
      refine .inr ⟨⟨before, statement, after, rest, asserts, ?_, ?_⟩, kept last inside⟩
      · exact fun later member => final later (List.mem_append_left _ member)
      · exact fun later member => kept later (List.mem_append_left _ member)
  · intro standing
    by_cases asserted : last.value = value
    · exact ⟨statements, last, [], rfl, asserted, nofun, nofun⟩
    · rcases standing with rfl | ⟨⟨before, statement, after, rfl, asserts, final, kept⟩, spared⟩
      · exact absurd rfl asserted
      · refine ⟨before, statement, after ++ [last], ?_, asserts, ?_, ?_⟩
        · rw [List.append_assoc, List.cons_append]
        · intro later member
          rcases List.mem_append.mp member with earlier | here
          · exact final later earlier
          · exact List.mem_singleton.mp here ▸ asserted
        · intro later member
          rcases List.mem_append.mp member with earlier | here
          · exact kept later earlier
          · exact List.mem_singleton.mp here ▸ spared

/-- A value is in force exactly when nothing after its last assertion takes it back. -/
theorem mem_inForce_iff
    {statements : List (Statement Value)}
    {value : Value} :
    value ∈ inForce statements ↔ LastAssertion statements value := by
  induction statements using List.reverseRecOn with
  | nil =>
      refine ⟨fun standing => standing.elim, ?_⟩
      rintro ⟨before, statement, after, split, -⟩
      exact absurd split (by simp)
  | append_singleton statements last inductionHypothesis =>
      rw [inForce_concat, Statement.mem_act, lastAssertion_concat, inductionHypothesis]

end Supersession
