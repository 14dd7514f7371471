import MailerAgent.Foundation.Process

/-!
# Two runs of one process

A process runs alone, once on each of two stores, in the same environment. The
environment is a function: what it answers depends on the step, the signal and what
the signal's prompt reads from the store. `Twin` is a weakest precondition for
noninterference: under it the two runs stay in lockstep, with the same interactions,
the same writes and the same value at the end.
-/

namespace Concurrent

variable {Store Write Signal Prompt : Type} {Reply : Signal → Type}
variable {Value Result : Type}

/-! ## Running alone -/

/-- The environment of a process that runs alone. -/
structure Environment
    (Signal Prompt : Type)
    (Reply : Signal → Type) where
  fault : Nat → Bool := fun _ => false
  commit : Nat → CommitOutcome := fun _ => .committed
  answer : Nat → (signal : Signal) → Option Prompt → Reply signal

section Alone

variable (apply : Store → Write → Option Store) (prompt : Signal → Store → Prompt)

/-- What the prompt of a signal reads in a transaction; nothing once it is aborted. -/
def promptIn
    (store : Store)
    (session : Session Write)
    (signal : Signal) : Option Prompt :=
  if session.aborted then none
  else (applyAll apply store session.writes).map (prompt signal)

/-- How a process ended that ran alone, and the interactions that it had. -/
structure Outcome (Store Write Signal Value : Type) where
  store : Store
  session : Session Write
  trace : List Signal
  value : Value

/-- A complete run of a process alone. -/
def Process.alone (environment : Environment Signal Prompt Reply) :
    Process Store Write Signal Reply Value → Nat → Store → Session Write →
    Outcome Store Write Signal Value
  | .done value, _, store, session => ⟨store, session, [], value⟩
  | .statement run next, position, store, session =>
      let result := runStatement apply store session (environment.fault position) run
      Process.alone environment (next result.1) (position + 1) store result.2
  | .commit next, position, store, session =>
      let result := runCommit apply store session (environment.commit position)
      Process.alone environment (next result.2.1) (position + 1) result.1 result.2.2
  | .rollback next, position, store, _ =>
      Process.alone environment next (position + 1) store {}
  | .ask signal next, position, store, session =>
      let rest := Process.alone environment
        (next (environment.answer position signal
          (promptIn apply prompt store session signal))) (position + 1) store session
      { rest with trace := signal :: rest.trace }

end Alone

/-! ## Noninterference -/

/-- The two stores and the transaction that is open on both. -/
structure Twins (Store Write : Type) where
  left : Store
  right : Store
  session : Session Write := {}

/-- What a twin proof relies on: how writes apply, what prompts read, the answers that
are considered, and the writes that are allowed. -/
structure Discipline
    (Store Write Signal Prompt : Type)
    (Reply : Signal → Type) where
  apply : Store → Write → Option Store
  prompt : Signal → Store → Prompt
  admits : (signal : Signal) → Reply signal → Prop
  own : Write → Prop

variable (discipline : Discipline Store Write Signal Prompt Reply)

/-- The writes of a statement, unless one of them violates a constraint. -/
def Discipline.accepted
    (view : Store)
    (writes : Option (List Write)) :
    Option (List Write) :=
  writes.filter fun list => (applyAll discipline.apply view list).isSome

/-- What the transaction sees on either store. -/
structure Twins.Sees
    (twins : Twins Store Write)
    (viewLeft viewRight : Store) : Prop where
  left : applyAll discipline.apply twins.left twins.session.writes = some viewLeft
  right : applyAll discipline.apply twins.right twins.session.writes = some viewRight

/-- The transaction is lost. -/
def Twins.abort (twins : Twins Store Write) : Twins Store Write :=
  { twins with session := { twins.session with aborted := true } }

/-- Writes are added. -/
def Twins.extend
    (twins : Twins Store Write)
    (writes : List Write) : Twins Store Write :=
  { twins with session := { twins.session with writes := twins.session.writes ++ writes } }

/-- The two runs stay together and end as required. -/
def Twin :
    Process Store Write Signal Reply Value → (Value → Twins Store Write → Prop) →
    Twins Store Write → Prop
  | .done value, ensures, twins => ensures value twins
  | .statement run next, ensures, twins =>
      Twin (next .failed) ensures twins.abort ∧
      (twins.session.aborted = false → ∀ viewLeft viewRight,
        twins.Sees discipline viewLeft viewRight →
        discipline.accepted viewLeft (run viewLeft) =
          discipline.accepted viewRight (run viewRight) ∧
        Twin (next .violated) ensures twins.abort ∧
        ∀ writes, discipline.accepted viewLeft (run viewLeft) = some writes →
          next (.ran viewLeft) = next (.ran viewRight) ∧
            (∀ write ∈ writes, discipline.own write) ∧
            Twin (next (.ran viewLeft)) ensures (twins.extend writes))
  | .commit next, ensures, twins =>
      Twin (next false) ensures { twins with session := ⟨[], true⟩ } ∧
      (twins.session.aborted = false → ∀ viewLeft viewRight,
        twins.Sees discipline viewLeft viewRight →
        Twin (next true) ensures ⟨viewLeft, viewRight, {}⟩ ∧
          Twin (next false) ensures ⟨viewLeft, viewRight, ⟨[], true⟩⟩)
  | .rollback next, ensures, twins => Twin next ensures { twins with session := {} }
  | .ask signal next, ensures, twins =>
      (twins.session.aborted = false → ∀ viewLeft viewRight,
        twins.Sees discipline viewLeft viewRight →
        discipline.prompt signal viewLeft = discipline.prompt signal viewRight) ∧
      ∀ reply, discipline.admits signal reply → Twin (next reply) ensures twins

variable {discipline}

theorem Twin.mono
    {process : Process Store Write Signal Reply Value}
    {ensures weaker : Value → Twins Store Write → Prop}
    {twins : Twins Store Write}
    (twin : Twin discipline process ensures twins)
    (implies : ∀ value twins, ensures value twins → weaker value twins) :
    Twin discipline process weaker twins := by
  induction process generalizing twins with
  | done value => exact implies value twins twin
  | statement run next inductionHypothesis =>
      refine ⟨inductionHypothesis _ twin.1, ?_⟩
      intro unaborted viewLeft viewRight sees
      obtain ⟨same, violated, ran⟩ := twin.2 unaborted viewLeft viewRight sees
      refine ⟨same, inductionHypothesis _ violated, ?_⟩
      intro writes accepted
      obtain ⟨together, own, rest⟩ := ran writes accepted
      exact ⟨together, own, inductionHypothesis _ rest⟩
  | commit next inductionHypothesis =>
      refine ⟨inductionHypothesis _ twin.1, ?_⟩
      intro unaborted viewLeft viewRight sees
      obtain ⟨reported, unreported⟩ := twin.2 unaborted viewLeft viewRight sees
      exact ⟨inductionHypothesis _ reported, inductionHypothesis _ unreported⟩
  | rollback next inductionHypothesis => exact inductionHypothesis twin
  | ask signal next inductionHypothesis =>
      exact ⟨twin.1, fun reply admitted => inductionHypothesis _ (twin.2 reply admitted)⟩

/-- Sequential composition. -/
theorem Twin.andThen
    {process : Process Store Write Signal Reply Value}
    {rest : Value → Process Store Write Signal Reply Result}
    {ensures : Result → Twins Store Write → Prop}
    {twins : Twins Store Write}
    (twin : Twin discipline process (fun value => Twin discipline (rest value) ensures)
      twins) :
    Twin discipline (process.andThen rest) ensures twins := by
  induction process generalizing twins with
  | done value => exact twin
  | statement run next inductionHypothesis =>
      refine ⟨inductionHypothesis _ twin.1, ?_⟩
      intro unaborted viewLeft viewRight sees
      obtain ⟨same, violated, ran⟩ := twin.2 unaborted viewLeft viewRight sees
      refine ⟨same, inductionHypothesis _ violated, ?_⟩
      intro writes accepted
      obtain ⟨together, own, continues⟩ := ran writes accepted
      exact ⟨congrArg (fun process => process.andThen rest) together, own,
        inductionHypothesis _ continues⟩
  | commit next inductionHypothesis =>
      refine ⟨inductionHypothesis _ twin.1, ?_⟩
      intro unaborted viewLeft viewRight sees
      obtain ⟨reported, unreported⟩ := twin.2 unaborted viewLeft viewRight sees
      exact ⟨inductionHypothesis _ reported, inductionHypothesis _ unreported⟩
  | rollback next inductionHypothesis => exact inductionHypothesis twin
  | ask signal next inductionHypothesis =>
      exact ⟨twin.1, fun reply admitted => inductionHypothesis _ (twin.2 reply admitted)⟩

/-! ## Lockstep -/

/-- An open transaction makes sense on both stores and made only allowed writes. -/
structure Twins.Valid
    (discipline : Discipline Store Write Signal Prompt Reply)
    (twins : Twins Store Write) : Prop where
  seen : twins.session.aborted = false → ∃ viewLeft viewRight,
    twins.Sees discipline viewLeft viewRight
  own : ∀ write ∈ twins.session.writes, discipline.own write

theorem Twins.Valid.of_empty
    (left right : Store)
    (aborted : Bool) :
    Twins.Valid discipline ⟨left, right, ⟨[], aborted⟩⟩ :=
  ⟨fun _ => ⟨left, right, rfl, rfl⟩, nofun⟩

/-- A statement that is not lost, on the view that it sees. -/
theorem Discipline.runStatement_seen
    {discipline : Discipline Store Write Signal Prompt Reply}
    {store view : Store}
    {session : Session Write}
    {fault : Bool}
    (run : Store → Option (List Write))
    (ongoing : ¬(fault || session.aborted) = true)
    (seen : applyAll discipline.apply store session.writes = some view) :
    runStatement discipline.apply store session fault run =
      match discipline.accepted view (run view) with
      | none => (.violated, { session with aborted := true })
      | some writes => (.ran view, { session with writes := session.writes ++ writes }) := by
  unfold runStatement
  rw [if_neg ongoing]
  simp only [seen]
  rfl

/-- The statement of one run and of the other. -/
theorem Twin.statement
    {run : Store → Option (List Write)}
    {next : StatementResult Store → Process Store Write Signal Reply Value}
    {ensures : Value → Twins Store Write → Prop}
    {twins : Twins Store Write}
    (twin : Twin discipline (.statement run next) ensures twins)
    (valid : twins.Valid discipline)
    (fault : Bool) :
    ∃ result session, runStatement discipline.apply twins.left twins.session fault run =
        (result, session) ∧
      (∃ other, runStatement discipline.apply twins.right twins.session fault run =
        (other, session) ∧ next other = next result) ∧
      Twin discipline (next result) ensures { twins with session := session } ∧
      Twins.Valid discipline { twins with session := session } := by
  obtain ⟨failed, ran⟩ := twin
  by_cases lost : (fault || twins.session.aborted) = true
  · refine ⟨.failed, { twins.session with aborted := true }, ?_, ⟨.failed, ?_, rfl⟩, failed,
      nofun, valid.own⟩
    · unfold runStatement
      rw [if_pos lost]
    · unfold runStatement
      rw [if_pos lost]
  · have unaborted : twins.session.aborted = false := by
      cases aborted : twins.session.aborted with
      | false => rfl
      | true => simp [aborted] at lost
    obtain ⟨viewLeft, viewRight, sees⟩ := valid.seen unaborted
    obtain ⟨same, violated, continues⟩ := ran unaborted viewLeft viewRight sees
    rw [Discipline.runStatement_seen run lost sees.left,
      Discipline.runStatement_seen run lost sees.right, ← same]
    cases accepted : discipline.accepted viewLeft (run viewLeft) with
    | none => exact ⟨_, _, rfl, ⟨_, rfl, rfl⟩, violated, nofun, valid.own⟩
    | some writes =>
        obtain ⟨together, own, rest⟩ := continues writes accepted
        refine ⟨_, _, rfl, ⟨_, rfl, together.symm⟩, rest, ?_, ?_⟩
        · intro _
          obtain ⟨-, applied⟩ := Option.filter_eq_some_iff.mp accepted
          rw [same] at accepted
          obtain ⟨-, appliedRight⟩ := Option.filter_eq_some_iff.mp accepted
          obtain ⟨nextLeft, reachedLeft⟩ := Option.isSome_iff_exists.mp applied
          obtain ⟨nextRight, reachedRight⟩ := Option.isSome_iff_exists.mp appliedRight
          refine ⟨nextLeft, nextRight, ?_, ?_⟩
          · change applyAll discipline.apply twins.left (twins.session.writes ++ writes) = _
            rw [applyAll_append, sees.left]
            exact reachedLeft
          · change applyAll discipline.apply twins.right (twins.session.writes ++ writes) = _
            rw [applyAll_append, sees.right]
            exact reachedRight
        · intro write member
          rcases List.mem_append.mp member with old | new
          · exact valid.own write old
          · exact own write new

/-- The commit of one run and of the other. -/
theorem Twin.commit
    {next : Bool → Process Store Write Signal Reply Value}
    {ensures : Value → Twins Store Write → Prop}
    {twins : Twins Store Write}
    (twin : Twin discipline (.commit next) ensures twins)
    (valid : twins.Valid discipline)
    (outcome : CommitOutcome) :
    ∃ left right reported session,
      runCommit discipline.apply twins.left twins.session outcome =
        (left, reported, session) ∧
      runCommit discipline.apply twins.right twins.session outcome =
        (right, reported, session) ∧
      Twin discipline (next reported) ensures ⟨left, right, session⟩ ∧
      Twins.Valid discipline ⟨left, right, session⟩ := by
  obtain ⟨failed, applied⟩ := twin
  unfold runCommit
  cases aborted : twins.session.aborted with
  | true => exact ⟨_, _, _, _, rfl, rfl, failed, .of_empty _ _ _⟩
  | false =>
      obtain ⟨viewLeft, viewRight, sees⟩ := valid.seen aborted
      obtain ⟨reported, unreported⟩ := applied aborted viewLeft viewRight sees
      rw [if_neg Bool.false_ne_true, if_neg Bool.false_ne_true]
      simp only [sees.left, sees.right]
      refine ⟨_, _, _, _, rfl, rfl, ?_, .of_empty _ _ _⟩
      cases outcome with
      | committed => exact reported
      | appliedButReportedFailed => exact unreported
      | failed => exact failed

/-- An interaction of one run and of the other. -/
theorem Twin.prompts
    {signal : Signal}
    {next : Reply signal → Process Store Write Signal Reply Value}
    {ensures : Value → Twins Store Write → Prop}
    {twins : Twins Store Write}
    (twin : Twin discipline (.ask signal next) ensures twins)
    (valid : twins.Valid discipline) :
    promptIn discipline.apply discipline.prompt twins.left twins.session signal =
      promptIn discipline.apply discipline.prompt twins.right twins.session signal := by
  unfold promptIn
  cases aborted : twins.session.aborted with
  | true => rfl
  | false =>
      obtain ⟨viewLeft, viewRight, sees⟩ := valid.seen aborted
      rw [sees.left, sees.right]
      exact congrArg some (twin.1 aborted viewLeft viewRight sees)

/-- How two runs of one process ended. -/
structure Together
    (discipline : Discipline Store Write Signal Prompt Reply)
    (ensures : Value → Twins Store Write → Prop)
    (first second : Outcome Store Write Signal Value) : Prop where
  value : second.value = first.value
  session : second.session = first.session
  trace : second.trace = first.trace
  ensures : ensures first.value ⟨first.store, second.store, first.session⟩
  valid : Twins.Valid discipline ⟨first.store, second.store, first.session⟩

/-- Two runs of a process that is a twin stay together, whatever happens. -/
theorem Twin.together
    {environment : Environment Signal Prompt Reply}
    {ensures : Value → Twins Store Write → Prop}
    (admitted : ∀ position signal prompt,
      discipline.admits signal (environment.answer position signal prompt))
    {process : Process Store Write Signal Reply Value}
    (position : Nat)
    {twins : Twins Store Write}
    (twin : Twin discipline process ensures twins)
    (valid : twins.Valid discipline) :
    Together discipline ensures
      (process.alone discipline.apply discipline.prompt environment position twins.left
        twins.session)
      (process.alone discipline.apply discipline.prompt environment position twins.right
        twins.session) := by
  induction process generalizing position twins with
  | done value => exact ⟨rfl, rfl, rfl, twin, valid⟩
  | statement run next inductionHypothesis =>
      obtain ⟨result, session, onLeft, ⟨other, onRight, same⟩, rest, kept⟩ :=
        twin.statement valid (environment.fault position)
      simp only [Process.alone]
      rw [onLeft, onRight, same]
      exact inductionHypothesis _ _ rest kept
  | commit next inductionHypothesis =>
      obtain ⟨left, right, reported, session, onLeft, onRight, rest, kept⟩ :=
        twin.commit valid (environment.commit position)
      simp only [Process.alone]
      rw [onLeft, onRight]
      exact inductionHypothesis _ _ rest kept
  | rollback next inductionHypothesis =>
      exact inductionHypothesis _ twin (.of_empty _ _ _)
  | ask signal next inductionHypothesis =>
      simp only [Process.alone]
      rw [← twin.prompts valid]
      obtain ⟨value, session, trace, ends, kept⟩ :=
        inductionHypothesis _ (position + 1) (twin.2 _ (admitted position signal _)) valid
      exact ⟨value, session, congrArg (signal :: ·) trace, ends, kept⟩

end Concurrent
