import Mathlib.Data.List.Infix

/-!
# Occurrences in joined texts

An occurrence of a word in a text, with a condition on the symbols next to it. A word
that does not contain the separator occurs in a joined text exactly where it occurs in
one of the parts, if the separator counts as the end of a text.
-/

namespace Occurrences

universe u

variable {Symbol : Type u}

/-- The word occurs with neighbours that fit. -/
def Occurs
    (fits : Option Symbol → Option Symbol → Prop)
    (word text : List Symbol) : Prop :=
  ∃ before after, text = before ++ (word ++ after) ∧ fits before.getLast? after.head?

/-- The separator is as good a neighbour as the end of the text. -/
structure Separates
    (fits : Option Symbol → Option Symbol → Prop)
    (separator : Symbol) : Prop where
  before : ∀ after, fits (some separator) after ↔ fits none after
  after : ∀ before, fits before (some separator) ↔ fits before none

variable {fits : Option Symbol → Option Symbol → Prop} {separator : Symbol}
  {word : List Symbol}

theorem fits_append_before
    (separates : Separates fits separator)
    (front before : List Symbol)
    (after : Option Symbol) :
    fits (front ++ separator :: before).getLast? after ↔ fits before.getLast? after := by
  rcases List.eq_nil_or_concat before with rfl | ⟨others, last, rfl⟩
  · rw [List.getLast?_concat]
    exact separates.before after
  · rw [List.concat_eq_append, ← List.cons_append, ← List.append_assoc, List.getLast?_concat,
      List.getLast?_concat]

theorem fits_append_after
    (separates : Separates fits separator)
    (before : Option Symbol)
    (after back : List Symbol) :
    fits before (after ++ separator :: back).head? ↔ fits before after.head? := by
  cases after with
  | nil => exact separates.after before
  | cons first others => exact Iff.rfl

/-- A word without the separator occurs on one side of it. -/
theorem occurs_append_iff
    (separates : Separates fits separator)
    (spared : separator ∉ word)
    (nonempty : word ≠ [])
    (left right : List Symbol) :
    Occurs fits word (left ++ separator :: right) ↔
      Occurs fits word left ∨ Occurs fits word right := by
  constructor
  · rintro ⟨before, after, split, fit⟩
    rcases List.append_eq_append_iff.mp split with
      ⟨middle, rfl, rest⟩ | ⟨middle, rfl, rest⟩
    · cases middle with
      | nil =>
          cases word with
          | nil => exact absurd rfl nonempty
          | cons first others =>
              exact absurd ((List.cons.inj rest).1 ▸ List.mem_cons_self) spared
      | cons first middle =>
          obtain ⟨rfl, rfl⟩ := List.cons.inj rest
          exact .inr ⟨middle, after, rfl, (fits_append_before separates left middle _).mp fit⟩
    · rcases List.append_eq_append_iff.mp rest with
        ⟨inside, rfl, final⟩ | ⟨inside, rfl, final⟩
      · rw [final] at fit
        exact .inl ⟨before, inside, rfl, (fits_append_after separates _ inside right).mp fit⟩
      · cases inside with
        | nil =>
            rw [List.nil_append] at final
            rw [List.append_nil]
            refine .inl ⟨before, [], by rw [List.append_nil], ?_⟩
            rw [← final] at fit
            exact (separates.after _).mp fit
        | cons first others =>
            have member : separator ∈ middle ++ first :: others :=
              List.mem_append_right _ ((List.cons.inj final).1 ▸ List.mem_cons_self)
            exact absurd member spared
  · rintro (⟨before, after, rfl, fit⟩ | ⟨before, after, rfl, fit⟩)
    · refine ⟨before, after ++ separator :: right, by simp only [List.append_assoc], ?_⟩
      exact (fits_append_after separates _ after right).mpr fit
    · refine ⟨left ++ separator :: before, after, ?_,
        (fits_append_before separates left before _).mpr fit⟩
      rw [List.append_assoc, List.cons_append]

/-- A word without the separator occurs in one of the parts. -/
theorem occurs_intercalate_iff
    (separates : Separates fits separator)
    (spared : separator ∉ word)
    (nonempty : word ≠ [])
    (parts : List (List Symbol)) :
    Occurs fits word ([separator].intercalate parts) ↔
      ∃ part ∈ parts, Occurs fits word part := by
  induction parts with
  | nil =>
      refine iff_of_false ?_ (by simp)
      rintro ⟨before, after, split, -⟩
      obtain ⟨-, empty⟩ := List.append_eq_nil_iff.mp split.symm
      exact nonempty (List.append_eq_nil_iff.mp empty).1
  | cons part parts inductionHypothesis =>
      cases parts with
      | nil => simp [List.intercalate]
      | cons next parts =>
          have joined : [separator].intercalate (part :: next :: parts) =
              part ++ separator :: [separator].intercalate (next :: parts) := by
            simp [List.intercalate]
          rw [joined, occurs_append_iff separates spared nonempty, inductionHypothesis]
          simp only [List.mem_cons, exists_eq_or_imp]

/-- More parts, more occurrences. -/
theorem Occurs.intercalate_mono
    {parts more : List (List Symbol)}
    (separates : Separates fits separator)
    (spared : separator ∉ word)
    (nonempty : word ≠ [])
    (included : parts ⊆ more)
    (occurs : Occurs fits word ([separator].intercalate parts)) :
    Occurs fits word ([separator].intercalate more) := by
  obtain ⟨part, member, here⟩ :=
    (occurs_intercalate_iff separates spared nonempty parts).mp occurs
  exact (occurs_intercalate_iff separates spared nonempty more).mpr
    ⟨part, included member, here⟩

/-- Without a condition on the neighbours, an occurrence is an infix. -/
theorem occurs_true_iff {text : List Symbol} :
    Occurs (fun _ _ => True) word text ↔ word <:+: text := by
  constructor
  · rintro ⟨before, after, rfl, -⟩
    exact ⟨before, after, by rw [List.append_assoc]⟩
  · rintro ⟨before, after, rfl⟩
    exact ⟨before, after, by rw [List.append_assoc], trivial⟩

theorem separates_true : Separates (fun _ _ => True) separator where
  before _ := Iff.rfl
  after _ := Iff.rfl

end Occurrences
