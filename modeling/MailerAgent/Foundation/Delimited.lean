import Mathlib.Data.List.Basic

/-!
# Delimited encodings

An encoding into sequences of symbols is delimited if the end of a code word shows in
whatever follows it. Delimited encodings are injective, and they stay delimited when they
are put one after the other or repeated up to a symbol that starts no code word.
-/

namespace Delimited

universe u v w

variable {Value : Type u} {Other : Type v} {Symbol : Type w}

/-- A code word and what follows it are determined by the whole sequence. -/
def IsDelimited (encode : Value → List Symbol) : Prop :=
  ∀ left right rest other, encode left ++ rest = encode right ++ other →
    left = right ∧ rest = other

/-- Reading back a code word shows that it is delimited. -/
theorem isDelimited_of_read
    {encode : Value → List Symbol}
    (read : List Symbol → Option (Value × List Symbol))
    (reads : ∀ value rest, read (encode value ++ rest) = some (value, rest)) :
    IsDelimited encode := by
  intro left right rest other same
  have both : some (left, rest) = some (right, other) := by
    rw [← reads left rest, ← reads right other, same]
  exact Prod.mk.inj (Option.some.inj both)

/-- No code word is a prefix of the symbol sequences that start with this symbol. -/
def NeverStarts
    (encode : Value → List Symbol)
    (symbol : Symbol) : Prop :=
  ∀ value rest other, encode value ++ rest ≠ symbol :: other

/-- Code words up to a symbol that starts none of them. -/
theorem isDelimited_until
    {encode : Value → List Symbol}
    {stop : Symbol}
    (delimited : IsDelimited encode)
    (stops : NeverStarts encode stop) :
    IsDelimited fun values : List Value => values.flatMap encode ++ [stop] := by
  intro left
  induction left with
  | nil =>
      intro right rest other same
      cases right with
      | nil => exact ⟨rfl, List.cons.inj same |>.2⟩
      | cons value values =>
          refine (stops value (values.flatMap encode ++ [stop] ++ other) rest ?_).elim
          simpa [List.append_assoc] using same.symm
  | cons value values inductionHypothesis =>
      intro right rest other same
      cases right with
      | nil =>
          refine (stops value (values.flatMap encode ++ [stop] ++ rest) other ?_).elim
          simpa [List.append_assoc] using same
      | cons first others =>
          simp only [List.flatMap_cons, List.append_assoc] at same
          obtain ⟨rfl, later⟩ := delimited _ _ _ _ same
          obtain ⟨rfl, final⟩ := inductionHypothesis others rest other (by
            simpa only [List.append_assoc] using later)
          exact ⟨rfl, final⟩

/-- A code word or, for nothing, a word that shares no start with one. -/
theorem isDelimited_option
    {encode : Value → List Symbol}
    {first : Symbol}
    {others : List Symbol}
    (delimited : IsDelimited encode)
    (differs : NeverStarts encode first) :
    IsDelimited fun value : Option Value => value.elim (first :: others) encode := by
  intro left right rest other same
  cases left with
  | none =>
      cases right with
      | none => exact ⟨rfl, List.append_cancel_left same⟩
      | some value => exact (differs value other (others ++ rest) same.symm).elim
  | some value =>
      cases right with
      | none => exact (differs value rest (others ++ other) same).elim
      | some found =>
          obtain ⟨rfl, final⟩ := delimited _ _ _ _ same
          exact ⟨rfl, final⟩

end Delimited
