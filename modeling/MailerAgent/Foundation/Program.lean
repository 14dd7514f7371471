import Mathlib.Logic.Basic

/-!
# Stateful programs with exceptions

`Program` runs on a mutable state and may end in an exception; as in an
imperative language, the changes made before the exception stay in the state.
`retrying_ends` is the rule for programs that are tried again.
-/

namespace Effect

universe u

/-- A computation over a state that keeps its state when it raises. -/
def Program (State Failure Value : Type u) : Type u :=
  State → Except Failure Value × State

namespace Program

variable {State Failure Value Result : Type u}

/-- Run to completion, returning the outcome and the final state. -/
def exec
    (program : Program State Failure Value)
    (state : State) : Except Failure Value × State :=
  program state

/-- Return a value without touching the state. -/
def ret (value : Value) : Program State Failure Value :=
  fun state => (.ok value, state)

/-- Continue with the result of a program that returned normally. -/
def andThen
    (program : Program State Failure Value)
    (rest : Value → Program State Failure Result) :
    Program State Failure Result :=
  fun state =>
    match program state with
    | (.ok value, next) => rest value next
    | (.error failure, next) => (.error failure, next)

instance : Monad (Program State Failure) where
  pure := ret
  bind := andThen

/-- Raise an exception; the state stays as it is. -/
def raise (failure : Failure) : Program State Failure Value :=
  fun state => (.error failure, state)

/-- Read the state. -/
def read : Program State Failure State :=
  fun state => (.ok state, state)

/-- Rewrite the state. -/
def change (rewrite : State → State) : Program State Failure PUnit :=
  fun state => (.ok PUnit.unit, rewrite state)

/-- Handle the exception of a program in the state where it was raised. -/
def attempt
    (program : Program State Failure Value)
    (handler : Failure → Program State Failure Value) :
    Program State Failure Value :=
  fun state =>
    match program state with
    | (.ok value, next) => (.ok value, next)
    | (.error failure, next) => handler failure next

/-- Run a cleanup whichever way the body ends. An exception of the cleanup
replaces the one that was propagating. -/
def ensure
    (program : Program State Failure Value)
    (cleanup : Program State Failure PUnit) :
    Program State Failure Value :=
  fun state =>
    match program state with
    | (outcome, next) =>
        match cleanup next with
        | (.ok _, last) => (outcome, last)
        | (.error failure, last) => (.error failure, last)

/-- Perform numbered attempts, going on to the next one while the exception is
retryable and attempts remain; the last exception is raised again. -/
def retrying
    (retryable : Failure → Bool)
    (attemptNumber : Nat → Program State Failure Value) :
    Nat → Nat → Program State Failure Value
  | 0, number => attemptNumber number
  | remaining + 1, number =>
      attempt (attemptNumber number) fun failure =>
        if retryable failure then
          retrying retryable attemptNumber remaining (number + 1)
        else raise failure

/-- Embed a computation that only returns or raises. -/
def lift (outcome : Except Failure Value) : Program State Failure Value :=
  fun state => (outcome, state)

@[simp] theorem exec_pure
    (value : Value)
    (state : State) :
    (pure value : Program State Failure Value).exec state =
      (.ok value, state) := rfl

@[simp] theorem exec_raise
    (failure : Failure)
    (state : State) :
    (raise failure : Program State Failure Value).exec state =
      (.error failure, state) := rfl

@[simp] theorem exec_read (state : State) :
    (read : Program State Failure State).exec state = (.ok state, state) := rfl

@[simp] theorem exec_change
    (rewrite : State → State)
    (state : State) :
    (change rewrite : Program State Failure PUnit).exec state =
      (.ok PUnit.unit, rewrite state) := rfl

@[simp] theorem exec_lift
    (outcome : Except Failure Value)
    (state : State) :
    (lift outcome : Program State Failure Value).exec state =
      (outcome, state) := rfl

theorem exec_bind
    (program : Program State Failure Value)
    (rest : Value → Program State Failure Result)
    (state : State) :
    (program >>= rest).exec state =
      match program.exec state with
      | (.ok value, next) => (rest value).exec next
      | (.error failure, next) => (.error failure, next) := rfl

theorem exec_attempt
    (program : Program State Failure Value)
    (handler : Failure → Program State Failure Value)
    (state : State) :
    (attempt program handler).exec state =
      match program.exec state with
      | (.ok value, next) => (.ok value, next)
      | (.error failure, next) => (handler failure).exec next := rfl

theorem exec_ensure
    (program : Program State Failure Value)
    (cleanup : Program State Failure PUnit)
    (state : State) :
    (ensure program cleanup).exec state =
      match program.exec state with
      | (outcome, next) =>
          match cleanup.exec next with
          | (.ok _, last) => (outcome, last)
          | (.error failure, last) => (.error failure, last) := rfl

/-- Rule for retried programs. Every attempt starts in a fresh state and, when
it does not end the loop, leaves a fresh state behind. -/
theorem retrying_ends
    (fresh : State → Prop)
    (ended : Except Failure Value → State → Prop)
    {retryable : Failure → Bool}
    {attemptNumber : Nat → Program State Failure Value}
    (returned : ∀ number state value next, fresh state →
      (attemptNumber number).exec state = (.ok value, next) →
      ended (.ok value) next)
    (raised : ∀ number state failure next, fresh state →
      (attemptNumber number).exec state = (.error failure, next) →
      ended (.error failure) next ∧ (retryable failure = true → fresh next))
    (remaining number : Nat)
    (state : State)
    (start : fresh state) :
    ended ((retrying retryable attemptNumber remaining number).exec state).1
      ((retrying retryable attemptNumber remaining number).exec state).2 := by
  induction remaining generalizing number state with
  | zero =>
      rcases ran : (attemptNumber number).exec state with ⟨outcome, next⟩
      rw [retrying, ran]
      cases outcome with
      | ok value => exact returned number state value next start ran
      | error failure => exact (raised number state failure next start ran).1
  | succ remaining inductionHypothesis =>
      rcases ran : (attemptNumber number).exec state with ⟨outcome, next⟩
      rw [retrying, exec_attempt, ran]
      cases outcome with
      | ok value => exact returned number state value next start ran
      | error failure =>
          have result := raised number state failure next start ran
          by_cases again : retryable failure = true
          · simp only [again, if_true]
            exact inductionHypothesis (number + 1) next (result.2 again)
          · simp only [again]
            exact result.1

end Program
end Effect
