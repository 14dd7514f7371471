import Mathlib.Data.List.Basic

/-!
# Transactional processes over a shared store

A `Process` is a sequential program that interacts with a store shared with other
processes, one statement at a time. Its writes are private to its transaction
until a commit applies all of them to the store as it then is; a statement sees
the store with these writes applied. Every statement may fail, a failed
transaction stays aborted until it is rolled back, and a commit may take effect
and still be reported as failed. `ask` is any other interaction with the
environment.

`Safe` is a weakest precondition under interference. Between two statements the
store may change to any `later` one; what a process knows about the store is a
lower bound of it. `Thread.step_safe` shows that a safe process respects the rely
conditions of all others, whatever they do.
-/

namespace Concurrent

/-- How a commit ends for the code that issued it. -/
inductive CommitOutcome where
  /-- Applied and reported as such. -/
  | committed
  /-- Applied, but the caller sees an error. -/
  | appliedButReportedFailed
  /-- Not applied; the caller sees an error. -/
  | failed
  deriving DecidableEq, Repr

namespace CommitOutcome

variable {Store : Type}

/-- Whether the transaction took effect. -/
def applied : CommitOutcome → Bool
  | committed => true
  | appliedButReportedFailed => true
  | failed => false

/-- Whether the caller believes that it did. -/
def reported : CommitOutcome → Bool
  | committed => true
  | appliedButReportedFailed => false
  | failed => false

/-- The store after a transaction that would have produced `result`. -/
def store
    (outcome : CommitOutcome)
    (before result : Store) : Store :=
  if outcome.applied then result else before

/-- Either the transaction took effect or nothing changed. -/
theorem store_cases
    {property : Store → Prop}
    {before result : Store}
    (outcome : CommitOutcome)
    (unapplied : property before)
    (applied : property result) :
    property (outcome.store before result) := by
  cases outcome with
  | committed | appliedButReportedFailed => exact applied
  | failed => exact unapplied

/-- What is reported as committed took effect. -/
theorem store_of_reported
    {before result : Store}
    {outcome : CommitOutcome}
    (reported : outcome.reported = true) :
    outcome.store before result = result := by
  cases outcome with
  | committed => rfl
  | appliedButReportedFailed | failed => cases reported

end CommitOutcome

/-- What a statement reports: the view it ran on, a violated constraint, or a
failure of the database. -/
inductive StatementResult (Store : Type) where
  | ran (view : Store)
  | violated
  | failed

/-- Programs with transactions on a store and other interactions. A statement
computes its writes from the view; `none` is a violated constraint. -/
inductive Process
    (Store Write Signal : Type)
    (Reply : Signal → Type)
    (Value : Type) : Type where
  | done (value : Value)
  | statement
      (run : Store → Option (List Write))
      (next : StatementResult Store → Process Store Write Signal Reply Value)
  | commit (next : Bool → Process Store Write Signal Reply Value)
  | rollback (next : Process Store Write Signal Reply Value)
  | ask (signal : Signal) (next : Reply signal → Process Store Write Signal Reply Value)

namespace Process

variable {Store Write Signal : Type} {Reply : Signal → Type} {Value Result : Type}

/-- Continue with the value of a process. -/
def andThen
    (process : Process Store Write Signal Reply Value)
    (rest : Value → Process Store Write Signal Reply Result) :
    Process Store Write Signal Reply Result :=
  match process with
  | done value => rest value
  | statement run next => statement run fun result => (next result).andThen rest
  | commit next => commit fun reported => (next reported).andThen rest
  | rollback next => rollback (next.andThen rest)
  | ask signal next => ask signal fun reply => (next reply).andThen rest

theorem andThen_assoc
    {Final : Type}
    (process : Process Store Write Signal Reply Value)
    (rest : Value → Process Store Write Signal Reply Result)
    (last : Result → Process Store Write Signal Reply Final) :
    (process.andThen rest).andThen last = process.andThen fun value =>
      (rest value).andThen last := by
  induction process with
  | done value => rfl
  | statement run next inductionHypothesis =>
      exact congrArg (statement run) (funext fun result => inductionHypothesis result)
  | commit next inductionHypothesis =>
      exact congrArg commit (funext fun reported => inductionHypothesis reported)
  | rollback next inductionHypothesis => exact congrArg rollback inductionHypothesis
  | ask signal next inductionHypothesis =>
      exact congrArg (ask signal) (funext fun reply => inductionHypothesis reply)

/-- A complete run of a process with the interactions it had. What statements and
commits report and what is answered is arbitrary. -/
inductive Runs : Process Store Write Signal Reply Value → List Signal → Value → Prop where
  | done (value : Value) : Runs (.done value) [] value
  | statement
      {run : Store → Option (List Write)}
      {next : StatementResult Store → Process Store Write Signal Reply Value}
      {trace : List Signal}
      {value : Value}
      (result : StatementResult Store)
      (rest : Runs (next result) trace value) :
      Runs (.statement run next) trace value
  | commit
      {next : Bool → Process Store Write Signal Reply Value}
      {trace : List Signal}
      {value : Value}
      (reported : Bool)
      (rest : Runs (next reported) trace value) :
      Runs (.commit next) trace value
  | rollback
      {next : Process Store Write Signal Reply Value}
      {trace : List Signal}
      {value : Value}
      (rest : Runs next trace value) :
      Runs (.rollback next) trace value
  | ask
      {signal : Signal}
      {next : Reply signal → Process Store Write Signal Reply Value}
      {trace : List Signal}
      {value : Value}
      (reply : Reply signal)
      (rest : Runs (next reply) trace value) :
      Runs (.ask signal next) (signal :: trace) value

/-- A run of a sequential composition is a run of the first part followed by one of
the rest. -/
theorem Runs.split
    {process : Process Store Write Signal Reply Value}
    {rest : Value → Process Store Write Signal Reply Result}
    {trace : List Signal}
    {result : Result}
    (runs : Runs (process.andThen rest) trace result) :
    ∃ first second value, trace = first ++ second ∧ Runs process first value ∧
      Runs (rest value) second result := by
  induction process generalizing trace with
  | done value => exact ⟨[], trace, value, rfl, .done value, runs⟩
  | statement run next inductionHypothesis =>
      cases runs with
      | statement reported tail =>
          obtain ⟨first, second, value, rfl, left, right⟩ := inductionHypothesis _ tail
          exact ⟨first, second, value, rfl, .statement reported left, right⟩
  | commit next inductionHypothesis =>
      cases runs with
      | commit reported tail =>
          obtain ⟨first, second, value, rfl, left, right⟩ := inductionHypothesis _ tail
          exact ⟨first, second, value, rfl, .commit reported left, right⟩
  | rollback next inductionHypothesis =>
      cases runs with
      | rollback tail =>
          obtain ⟨first, second, value, rfl, left, right⟩ := inductionHypothesis tail
          exact ⟨first, second, value, rfl, .rollback left, right⟩
  | ask signal next inductionHypothesis =>
      cases runs with
      | ask reply tail =>
          obtain ⟨first, second, value, rfl, left, right⟩ := inductionHypothesis _ tail
          exact ⟨signal :: first, second, value, rfl, .ask reply left, right⟩

end Process

section Semantics

variable {Store Write Signal : Type} {Reply : Signal → Type} {Value : Type}
variable (apply : Store → Write → Option Store)

/-- Apply writes in order; `none` is a violated constraint. -/
def applyAll : Store → List Write → Option Store
  | store, [] => some store
  | store, write :: writes => (apply store write).bind fun next => applyAll next writes

theorem applyAll_append
    (store : Store)
    (first second : List Write) :
    applyAll apply store (first ++ second) =
      (applyAll apply store first).bind fun middle => applyAll apply middle second := by
  induction first generalizing store with
  | nil => rfl
  | cons write writes inductionHypothesis =>
      cases applied : apply store write with
      | none => simp [applyAll, applied]
      | some next => simp [applyAll, applied, inductionHypothesis]

/-- The transaction that a thread is in. -/
structure Session (Write : Type) where
  writes : List Write := []
  aborted : Bool := false

/-- A process with its transaction. -/
structure Thread
    (Store Write Signal : Type)
    (Reply : Signal → Type)
    (Value : Type) where
  process : Process Store Write Signal Reply Value
  session : Session Write := {}

/-- What the environment decides about one step. -/
structure Stimulus
    (Signal : Type)
    (Reply : Signal → Type) where
  fault : Bool := false
  commit : CommitOutcome := .committed
  answer : (signal : Signal) → Reply signal

/-- Result of a statement: what it reports, and the transaction after it. -/
def runStatement
    (store : Store)
    (session : Session Write)
    (fault : Bool)
    (run : Store → Option (List Write)) : StatementResult Store × Session Write :=
  if fault || session.aborted then (.failed, { session with aborted := true })
  else
    match applyAll apply store session.writes with
    | none => (.failed, { session with aborted := true })
    | some view =>
        match (run view).filter fun writes => (applyAll apply view writes).isSome with
        | none => (.violated, { session with aborted := true })
        | some writes => (.ran view, { session with writes := session.writes ++ writes })

/-- Result of a commit: the store, what is reported, and the transaction after it.
A commit that is reported as failed leaves a transaction to be rolled back. -/
def runCommit
    (store : Store)
    (session : Session Write)
    (outcome : CommitOutcome) : Store × Bool × Session Write :=
  if session.aborted then (store, false, ⟨[], true⟩)
  else
    match applyAll apply store session.writes with
    | none => (store, false, ⟨[], true⟩)
    | some result =>
        (outcome.store store result, outcome.reported, ⟨[], !outcome.reported⟩)

/-- One step of a thread: the store, the thread, and the interaction it had. -/
def Thread.step
    (store : Store)
    (thread : Thread Store Write Signal Reply Value)
    (stimulus : Stimulus Signal Reply) :
    Option (Store × Thread Store Write Signal Reply Value × Option Signal) :=
  match thread.process with
  | .done _ => none
  | .statement run next =>
      let result := runStatement apply store thread.session stimulus.fault run
      some (store, ⟨next result.1, result.2⟩, none)
  | .commit next =>
      let result := runCommit apply store thread.session stimulus.commit
      some (result.1, ⟨next result.2.1, result.2.2⟩, none)
  | .rollback next => some (store, ⟨next, {}⟩, none)
  | .ask signal next =>
      some (store, ⟨next (stimulus.answer signal), thread.session⟩, some signal)

/-- A step changes the store only by committing the thread's own transaction. -/
theorem Thread.step_store
    {apply : Store → Write → Option Store}
    {store next : Store}
    {thread after : Thread Store Write Signal Reply Value}
    {stimulus : Stimulus Signal Reply}
    {asked : Option Signal}
    (stepped : thread.step apply store stimulus = some (next, after, asked)) :
    next = store ∨ applyAll apply store thread.session.writes = some next := by
  unfold Thread.step at stepped
  split at stepped
  · cases stepped
  · obtain ⟨rfl, -⟩ := stepped
    exact .inl rfl
  · obtain ⟨rfl, -⟩ := stepped
    unfold runCommit
    split
    · exact .inl rfl
    split
    · exact .inl rfl
    next result applied =>
    cases stimulus.commit with
    | committed | appliedButReportedFailed => exact .inr applied
    | failed => exact .inl rfl
  · obtain ⟨rfl, -⟩ := stepped
    exact .inl rfl
  · obtain ⟨rfl, -⟩ := stepped
    exact .inl rfl

end Semantics

/-! ## Safety under interference -/

/-- What processes promise each other. `later` bounds how the store may change,
`permitted` says which writes a transaction may make on a store at least as late as
a known one and after its earlier writes, and `allowed` which interactions a
process may have; `Ghost` records what the latter depends on. -/
structure Contract
    (Store Write Signal : Type)
    (Reply : Signal → Type)
    (Ghost : Type) where
  apply : Store → Write → Option Store
  later : Store → Store → Prop
  permitted : Store → List Write → Write → Prop
  allowed : Ghost → Store → Signal → Prop
  note : Ghost → Store → (signal : Signal) → Reply signal → Ghost

/-- The obligations between the parts of a contract. -/
structure Contract.Lawful
    {Store Write Signal Ghost : Type}
    {Reply : Signal → Type}
    (contract : Contract Store Write Signal Reply Ghost) : Prop where
  refl : ∀ {first second}, contract.later first second → contract.later second second
  trans : ∀ {first second third}, contract.later first second →
    contract.later second third → contract.later first third
  stable : ∀ {first second writes write}, contract.later first second →
    contract.permitted first writes write → contract.permitted second writes write
  advances : ∀ {base store view result writes write},
    contract.later base store → contract.later base view →
    applyAll contract.apply store writes = some view →
    contract.permitted base writes write →
    contract.apply view write = some result → contract.later view result

section Safety

variable {Store Write Signal Ghost : Type} {Reply : Signal → Type}
variable {Value Result : Type}

/-- What a process knows: a lower bound of the store, its own transaction, and the
ghost record. -/
structure Knowledge (Store Write Ghost : Type) where
  base : Store
  writes : List Write := []
  aborted : Bool := false
  ghost : Ghost

/-- The transaction was lost; the store is known to be at least `store`. -/
def Knowledge.abort
    (known : Knowledge Store Write Ghost)
    (store : Store) :
    Knowledge Store Write Ghost :=
  { known with base := store, aborted := true }

/-- The store is known to be at least `store`, and writes were added. -/
def Knowledge.extend
    (known : Knowledge Store Write Ghost)
    (store : Store)
    (writes : List Write) : Knowledge Store Write Ghost :=
  { known with base := store, writes := known.writes ++ writes }

/-- The transaction ended. -/
def Knowledge.ended
    (known : Knowledge Store Write Ghost)
    (store : Store)
    (aborted : Bool) :
    Knowledge Store Write Ghost :=
  { known with base := store, writes := [], aborted := aborted }

variable (contract : Contract Store Write Signal Reply Ghost)

/-- Each of the writes is permitted after the ones before it. -/
def Contract.PermittedAll (base : Store) : List Write → List Write → Prop
  | _, [] => True
  | earlier, write :: writes =>
      contract.permitted base earlier write ∧
        Contract.PermittedAll base (earlier ++ [write]) writes

/-- From what is known, every run keeps the contract and ends as required. -/
def Safe :
    Process Store Write Signal Reply Value →
    (Value → Knowledge Store Write Ghost → Prop) →
    Knowledge Store Write Ghost → Prop
  | .done value, ensures, known => ensures value known
  | .statement run next, ensures, known =>
      ∀ store, contract.later known.base store →
        Safe (next .failed) ensures (known.abort store) ∧
        (known.aborted = false →
          ∀ view, applyAll contract.apply store known.writes = some view →
            contract.later store view →
            Safe (next .violated) ensures (known.abort store) ∧
            ∀ writes, run view = some writes →
              contract.PermittedAll store known.writes writes ∧
                Safe (next (.ran view)) ensures (known.extend store writes))
  | .commit next, ensures, known =>
      ∀ store, contract.later known.base store →
        Safe (next false) ensures (known.ended store true) ∧
        (known.aborted = false →
          ∀ result, applyAll contract.apply store known.writes = some result →
            contract.later store result →
            Safe (next true) ensures (known.ended result false) ∧
              Safe (next false) ensures (known.ended result true))
  | .rollback next, ensures, known =>
      Safe next ensures (known.ended known.base false)
  | .ask signal next, ensures, known =>
      ∀ store, contract.later known.base store →
        contract.allowed known.ghost store signal ∧
          ∀ reply, Safe (next reply) ensures
            { known with
              base := store
              ghost := contract.note known.ghost store signal reply }

variable {contract}

/-- A weaker final condition. -/
theorem Safe.mono
    {process : Process Store Write Signal Reply Value}
    {ensures weaker : Value → Knowledge Store Write Ghost → Prop}
    {known : Knowledge Store Write Ghost}
    (safe : Safe contract process ensures known)
    (implies : ∀ value known, ensures value known → weaker value known) :
    Safe contract process weaker known := by
  induction process generalizing known with
  | done value => exact implies value known safe
  | statement run next inductionHypothesis =>
      intro store reached
      refine ⟨inductionHypothesis _ (safe store reached).1, ?_⟩
      intro unaborted view seen bound
      obtain ⟨violated, ran⟩ := (safe store reached).2 unaborted view seen bound
      refine ⟨inductionHypothesis _ violated, ?_⟩
      intro writes computed
      obtain ⟨permitted, rest⟩ := ran writes computed
      exact ⟨permitted, inductionHypothesis _ rest⟩
  | commit next inductionHypothesis =>
      intro store reached
      refine ⟨inductionHypothesis _ (safe store reached).1, ?_⟩
      intro unaborted result applied bound
      obtain ⟨reported, unreported⟩ := (safe store reached).2 unaborted result applied bound
      exact ⟨inductionHypothesis _ reported, inductionHypothesis _ unreported⟩
  | rollback next inductionHypothesis => exact inductionHypothesis safe
  | ask signal next inductionHypothesis =>
      intro store reached
      obtain ⟨allowed, replied⟩ := safe store reached
      exact ⟨allowed, fun reply => inductionHypothesis _ (replied reply)⟩

/-- Sequential composition. -/
theorem safe_andThen
    {process : Process Store Write Signal Reply Value}
    {rest : Value → Process Store Write Signal Reply Result}
    {ensures : Result → Knowledge Store Write Ghost → Prop}
    {known : Knowledge Store Write Ghost} :
    Safe contract (process.andThen rest) ensures known ↔
      Safe contract process (fun value => Safe contract (rest value) ensures) known := by
  induction process generalizing known with
  | done value => rfl
  | statement run next inductionHypothesis =>
      simp only [Process.andThen, Safe, inductionHypothesis]
  | commit next inductionHypothesis =>
      simp only [Process.andThen, Safe, inductionHypothesis]
  | rollback next inductionHypothesis =>
      simp only [Process.andThen, Safe, inductionHypothesis]
  | ask signal next inductionHypothesis =>
      simp only [Process.andThen, Safe, inductionHypothesis]

theorem Contract.PermittedAll.append
    {base : Store}
    {earlier first second : List Write}
    (left : contract.PermittedAll base earlier first)
    (right : contract.PermittedAll base (earlier ++ first) second) :
    contract.PermittedAll base earlier (first ++ second) := by
  induction first generalizing earlier with
  | nil => simpa using right
  | cons write writes inductionHypothesis =>
      refine ⟨left.1, inductionHypothesis left.2 ?_⟩
      simpa using right

theorem Contract.PermittedAll.later
    (lawful : contract.Lawful)
    {base store : Store}
    {earlier writes : List Write}
    (permitted : contract.PermittedAll base earlier writes)
    (reached : contract.later base store) :
    contract.PermittedAll store earlier writes := by
  induction writes generalizing earlier with
  | nil => trivial
  | cons write writes inductionHypothesis =>
      exact ⟨lawful.stable reached permitted.1, inductionHypothesis permitted.2⟩

/-- Permitted writes take a store to a later one. -/
theorem Contract.Lawful.applyAll_later
    (lawful : contract.Lawful)
    {base store view result : Store}
    {earlier writes : List Write}
    (reachedStore : contract.later base store)
    (reached : contract.later base view)
    (seen : applyAll contract.apply store earlier = some view)
    (permitted : contract.PermittedAll base earlier writes)
    (applied : applyAll contract.apply view writes = some result) :
    contract.later view result := by
  induction writes generalizing earlier view with
  | nil =>
      obtain rfl := Option.some.inj applied
      exact lawful.refl reached
  | cons write writes inductionHypothesis =>
      obtain ⟨middle, first, rest⟩ := Option.bind_eq_some_iff.mp applied
      have step := lawful.advances reachedStore reached seen permitted.1 first
      refine lawful.trans step (inductionHypothesis (lawful.trans reached step) ?_
        permitted.2 rest)
      rw [applyAll_append, seen]
      simp [applyAll, first]

/-- What is true of a thread between its steps. -/
def Thread.Holds
    (contract : Contract Store Write Signal Reply Ghost)
    (ensures : Value → Knowledge Store Write Ghost → Prop)
    (store : Store)
    (ghost : Ghost)
    (thread : Thread Store Write Signal Reply Value) : Prop :=
  ∃ base, contract.later base store ∧
    contract.PermittedAll base [] thread.session.writes ∧
    Safe contract thread.process ensures
      ⟨base, thread.session.writes, thread.session.aborted, ghost⟩

section Threads

variable {ensures : Value → Knowledge Store Write Ghost → Prop}
variable {store next : Store} {ghost : Ghost}
variable {thread after : Thread Store Write Signal Reply Value}

/-- The steps of other threads do not matter. -/
theorem Thread.Holds.later
    (lawful : contract.Lawful)
    (holds : thread.Holds contract ensures store ghost)
    (reached : contract.later store next) :
    thread.Holds contract ensures next ghost := by
  obtain ⟨base, bound, permitted, safe⟩ := holds
  exact ⟨base, lawful.trans bound reached, permitted, safe⟩

/-- A fresh thread of a safe process. -/
theorem Thread.Holds.start
    {process : Process Store Write Signal Reply Value}
    (valid : contract.later store store)
    (safe : Safe contract process ensures { base := store, ghost := ghost }) :
    Thread.Holds contract ensures store ghost ⟨process, {}⟩ :=
  ⟨store, valid, trivial, safe⟩

/-- A thread that has ended satisfies its final condition. -/
theorem Thread.Holds.ended
    {value : Value}
    (holds : thread.Holds contract ensures store ghost)
    (ended : thread.process = .done value) :
    ∃ base, contract.later base store ∧
      ensures value ⟨base, thread.session.writes, thread.session.aborted, ghost⟩ := by
  obtain ⟨base, bound, -, safe⟩ := holds
  rw [ended] at safe
  exact ⟨base, bound, safe⟩

/-- The ghost record after a step. -/
def noteAsked
    (contract : Contract Store Write Signal Reply Ghost)
    (ghost : Ghost)
    (store : Store)
    (stimulus : Stimulus Signal Reply) :
    Option Signal → Ghost
  | none => ghost
  | some signal => contract.note ghost store signal (stimulus.answer signal)

theorem runStatement_safe
    (lawful : contract.Lawful)
    {run : Store → Option (List Write)}
    {rest : StatementResult Store → Process Store Write Signal Reply Value}
    {session : Session Write}
    {base : Store}
    (fault : Bool)
    (bound : contract.later base store)
    (permitted : contract.PermittedAll base [] session.writes)
    (safe : Safe contract (.statement run rest) ensures
      ⟨base, session.writes, session.aborted, ghost⟩) :
    Thread.Holds contract ensures store ghost
      ⟨rest (runStatement contract.apply store session fault run).1,
        (runStatement contract.apply store session fault run).2⟩ := by
  have valid := lawful.refl bound
  have kept := permitted.later lawful bound
  obtain ⟨failed, ran⟩ := safe store bound
  unfold runStatement
  by_cases lost : (fault || session.aborted) = true
  · rw [if_pos lost]
    exact ⟨store, valid, kept, failed⟩
  · rw [if_neg lost]
    have unaborted : session.aborted = false := by
      cases aborted : session.aborted with
      | false => rfl
      | true => simp [aborted] at lost
    split
    · exact ⟨store, valid, kept, failed⟩
    · next view seen =>
        have reached : contract.later store view :=
          lawful.applyAll_later bound bound rfl permitted seen
        obtain ⟨violated, computed⟩ := ran unaborted view seen reached
        split
        · exact ⟨store, valid, kept, violated⟩
        · next writes result =>
            obtain ⟨result, -⟩ := Option.filter_eq_some_iff.mp result
            obtain ⟨more, continues⟩ := computed writes result
            exact ⟨store, valid, kept.append more, continues⟩

theorem runCommit_safe
    (lawful : contract.Lawful)
    {rest : Bool → Process Store Write Signal Reply Value}
    {session : Session Write}
    {base : Store}
    (outcome : CommitOutcome)
    (bound : contract.later base store)
    (permitted : contract.PermittedAll base [] session.writes)
    (safe : Safe contract (.commit rest) ensures
      ⟨base, session.writes, session.aborted, ghost⟩) :
    contract.later store (runCommit contract.apply store session outcome).1 ∧
      Thread.Holds contract ensures
        (runCommit contract.apply store session outcome).1 ghost
        ⟨rest (runCommit contract.apply store session outcome).2.1,
          (runCommit contract.apply store session outcome).2.2⟩ := by
  have valid := lawful.refl bound
  obtain ⟨failed, applied⟩ := safe store bound
  unfold runCommit
  cases aborted : session.aborted with
  | true =>
      rw [if_pos rfl]
      exact ⟨valid, store, valid, trivial, failed⟩
  | false =>
      rw [if_neg Bool.false_ne_true]
      split
      · exact ⟨valid, store, valid, trivial, failed⟩
      · next result seen =>
          have reached : contract.later store result :=
            lawful.applyAll_later bound bound rfl permitted seen
          obtain ⟨reported, unreported⟩ := applied aborted result seen reached
          cases outcome with
          | committed => exact ⟨reached, result, lawful.refl reached, trivial, reported⟩
          | appliedButReportedFailed =>
              exact ⟨reached, result, lawful.refl reached, trivial, unreported⟩
          | failed => exact ⟨valid, store, valid, trivial, failed⟩

/-- One step of a safe thread: the store only becomes later, the interaction was
allowed, and the thread stays safe. -/
theorem Thread.step_safe
    (lawful : contract.Lawful)
    {stimulus : Stimulus Signal Reply}
    {asked : Option Signal}
    (valid : contract.later store store)
    (holds : thread.Holds contract ensures store ghost)
    (stepped : thread.step contract.apply store stimulus = some (next, after, asked)) :
    contract.later store next ∧
      (∀ signal, asked = some signal → contract.allowed ghost store signal) ∧
      after.Holds contract ensures next
        (noteAsked contract ghost store stimulus asked) := by
  obtain ⟨base, bound, permitted, safe⟩ := holds
  unfold Thread.step at stepped
  split at stepped
  · cases stepped
  · next run rest process =>
      rw [process] at safe
      obtain ⟨rfl, rfl, rfl⟩ := stepped
      exact ⟨valid, nofun, runStatement_safe lawful _ bound permitted safe⟩
  · next rest process =>
      rw [process] at safe
      obtain ⟨rfl, rfl, rfl⟩ := stepped
      obtain ⟨reached, continues⟩ := runCommit_safe lawful _ bound permitted safe
      exact ⟨reached, nofun, continues⟩
  · next rest process =>
      rw [process] at safe
      obtain ⟨rfl, rfl, rfl⟩ := stepped
      exact ⟨valid, nofun, base, bound, trivial, safe⟩
  · next signal rest process =>
      rw [process] at safe
      obtain ⟨rfl, rfl, rfl⟩ := stepped
      obtain ⟨allowed, replied⟩ := safe store bound
      refine ⟨valid, ?_, store, valid, permitted.later lawful bound, replied _⟩
      rintro _ ⟨⟩
      exact allowed

end Threads
end Safety
end Concurrent
