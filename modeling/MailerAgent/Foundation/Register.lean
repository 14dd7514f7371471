import Mathlib.Data.List.Basic

/-!
# A register with one writer

A stored value that one writer replaces by what it computes from its last reading, while
others may clear it at any time. The writer's statement takes effect only if there is a
value exactly when it read one. Then nothing is lost: the value is what the journal of the
applied changes makes of nothing, where clearing the value also ends its journal.
-/

namespace Concurrent

variable {Value Change : Type}

/-- The stored value, what the writer has read and not used yet, and the changes applied
since there was no value. -/
structure Register (Value Change : Type) where
  stored : Option Value := none
  reading : Option (Option Value) := none
  journal : List Change := []

/-- What a journal makes of nothing. -/
def replay
    (apply : Option Value → Change → Value)
    (journal : List Change) : Option Value :=
  journal.foldl (fun stored change => some (apply stored change)) none

theorem replay_concat
    (apply : Option Value → Change → Value)
    (journal : List Change)
    (change : Change) :
    replay apply (journal ++ [change]) = some (apply (replay apply journal) change) := by
  simp [replay]

namespace Register

/-- The moves of the writer and of the others. -/
inductive Moves
    (apply : Option Value → Change → Value)
    (before : Register Value Change) : Register Value Change → Prop where
  | stays : Moves apply before before
  | reads : Moves apply before { before with reading := some before.stored }
  | forgets : Moves apply before { before with reading := none }
  | writes
      (change : Change)
      (seen : Option Value)
      (read : before.reading = some seen)
      (met : before.stored.isSome = seen.isSome) :
      Moves apply before
        ⟨some (apply seen change), none, before.journal ++ [change]⟩
  | clears : Moves apply before ⟨none, before.reading, []⟩

/-- The value is the replay of the journal, and the writer has read this value or one that
was cleared since. -/
structure Sound
    (apply : Option Value → Change → Value)
    (register : Register Value Change) : Prop where
  stored : register.stored = replay apply register.journal
  reading : ∀ seen, register.reading = some seen →
    seen = register.stored ∨ register.stored = none

variable {apply : Option Value → Change → Value} {before after : Register Value Change}

theorem sound_initial : Sound apply ({} : Register Value Change) where
  stored := rfl
  reading := nofun

/-- A reading that meets what is stored is what is stored. -/
theorem Sound.met
    (sound : Sound apply before)
    {seen : Option Value}
    (read : before.reading = some seen)
    (met : before.stored.isSome = seen.isSome) :
    seen = before.stored := by
  rcases sound.reading seen read with same | cleared
  · exact same
  · rw [cleared] at met ⊢
    exact Option.not_isSome_iff_eq_none.mp (by rw [← met]; exact Bool.false_ne_true)

theorem Sound.moves
    (sound : Sound apply before)
    (moves : Moves apply before after) :
    Sound apply after := by
  cases moves with
  | stays => exact sound
  | reads => exact ⟨sound.stored, fun seen read => .inl (Option.some.inj read).symm⟩
  | forgets => exact ⟨sound.stored, nofun⟩
  | writes change seen read met =>
      refine ⟨?_, nofun⟩
      rw [replay_concat, sound.met read met, sound.stored]
  | clears => exact ⟨rfl, fun _ _ => .inr rfl⟩

end Register
end Concurrent
