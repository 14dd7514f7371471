import Mathlib.Logic.Function.Basic
import MailerAgent.Foundation.Process
import MailerAgent.Foundation.Transition
import MailerAgent.Models.Semantics

/-!
# The liveness row of a process

`WorkerStatusRecorder` of `worker_status.py`: calls of `heartbeat` and of `mark_stopped` on
one recorder, interleaved statement by statement, with the row of the process in
`worker_runtime_status`. A transaction that has updated the row keeps other transactions
from it until its end; an insertion becomes visible with its commit. The clean-up of another
process may delete the row. The rows of other processes and the cycle rows are left out,
since no step here reads them.
-/

namespace MailerAgent
namespace Status

open Concurrent Transition

/-! ## The row -/

/-- The row of the process in `worker_runtime_status`. -/
structure RuntimeRow where
  role : String
  startedAt : Instant
  heartbeatAt : Instant
  stoppedAt : Option Instant := none
  deriving DecidableEq, Repr

/-- What the recorder knows from its start. -/
structure Recorder where
  role : String := "scheduler"
  startedAt : Instant
  deriving DecidableEq, Repr

/-- The condition of both updates: there is a row, and it is not stopped. -/
def live (row : Option RuntimeRow) : Bool :=
  row.any fun present => present.stoppedAt.isNone

/-! ## The calls -/

/-- Where a call of `heartbeat` is. -/
inductive HeartbeatPhase where
  /-- Not made yet. -/
  | idle
  /-- Before the test of the flag. -/
  | called
  /-- The flag was not set. -/
  | passed
  /-- Before the update. -/
  | opened (now : Instant)
  /-- The update has found the row; before the commit. -/
  | updating (now : Instant)
  /-- The update has found no row; before the search. -/
  | missed (now : Instant)
  /-- There is no row; before the insertion and the commit. -/
  | inserting (now : Instant)
  /-- Nothing was written; before the commit. -/
  | closing (now : Instant)
  /-- The insertion was rejected; before the verification. -/
  | conflicted (now : Instant)
  /-- The row exists; before the second update. -/
  | verified (now : Instant)
  /-- Before the clean-up of other processes' rows. -/
  | recorded (now : Instant)
  | returned (result : Bool)
  deriving DecidableEq, Repr

/-- Where a call of `mark_stopped` is. -/
inductive StopPhase where
  /-- Not made yet. -/
  | idle
  /-- Before the flag is set. -/
  | called
  /-- The flag is set. -/
  | flagged
  /-- Before the update. -/
  | opened (now : Instant)
  /-- The update has found the row; before the commit. -/
  | updating (now : Instant)
  /-- The update has found no row; before the commit. -/
  | closing
  | returned (result : Bool)
  deriving DecidableEq, Repr

/-- A call, by its number. -/
inductive Call where
  | heartbeat (number : Nat)
  | stop (number : Nat)
  deriving DecidableEq, Repr

/-- The process, its calls, and its row with the transaction that has updated it. -/
structure State where
  row : Option RuntimeRow := none
  holder : Option Call := none
  stopped : Bool := false
  heartbeats : Nat → HeartbeatPhase := fun _ => .idle
  stops : Nat → StopPhase := fun _ => .idle

/-- What the clock and the database answer to a step. -/
structure Choice where
  now : Instant := 0
  /-- A statement succeeds. -/
  succeeds : Bool := true
  /-- An insertion is rejected with an integrity error, for whatever reason. -/
  rejected : Bool := false
  outcome : CommitOutcome := .committed
  deriving DecidableEq, Repr

/-- A step: of a call, or of the clean-up of another process. -/
inductive Action where
  | heartbeat (number : Nat) (choice : Choice)
  | stop (number : Nat) (choice : Choice)
  | purge
  deriving DecidableEq, Repr

namespace State

/-- A call of `heartbeat` goes on. -/
def heartbeatMoved
    (state : State)
    (number : Nat)
    (phase : HeartbeatPhase) : State :=
  { state with heartbeats := Function.update state.heartbeats number phase }

/-- A call of `mark_stopped` goes on. -/
def stopMoved
    (state : State)
    (number : Nat)
    (phase : StopPhase) : State :=
  { state with stops := Function.update state.stops number phase }

end State

/-- The row after a commit: changed if the commit was applied. -/
def committedRow
    (outcome : CommitOutcome)
    (row changed : Option RuntimeRow) :
    Option RuntimeRow :=
  match outcome with
  | .failed => row
  | _ => changed

/-- How an update of the row ends. -/
inductive Updated where
  | failed
  | found
  | missed
  deriving DecidableEq, Repr

/-- An update of the live row: it waits for the transaction that has updated the row, and
keeps the row when it has found it. -/
def updateRow
    (state : State)
    (call : Call)
    (succeeds : Bool) : Option (Updated × State) :=
  if state.holder.isSome then none
  else if succeeds = false then some (.failed, state)
  else if live state.row then some (.found, { state with holder := some call })
  else some (.missed, state)

/-- The commit raised nothing. -/
def reported (outcome : CommitOutcome) : Bool :=
  outcome == .committed

/-- The end of `heartbeat` after its commit. -/
def afterCommit
    (now : Instant)
    (outcome : CommitOutcome) : HeartbeatPhase :=
  if reported outcome then .recorded now else .returned false

section Steps

variable (recorder : Recorder)

/-- The row that `heartbeat` inserts. -/
def insertedRow (now : Instant) : RuntimeRow where
  role := recorder.role
  startedAt := recorder.startedAt
  heartbeatAt := now

/-- The next step of `heartbeat`. -/
def heartbeatStep
    (state : State)
    (number : Nat)
    (choice : Choice) : Option State :=
  match state.heartbeats number with
  | .idle => some (state.heartbeatMoved number .called)
  | .called =>
      some (state.heartbeatMoved number (if state.stopped then .returned false else .passed))
  | .passed =>
      some (state.heartbeatMoved number
        (if choice.succeeds then .opened choice.now else .returned false))
  | .opened now =>
      (updateRow state (.heartbeat number) choice.succeeds).map fun (updated, next) =>
        next.heartbeatMoved number
          (match updated with
          | .failed => .returned false
          | .found => .updating now
          | .missed => .missed now)
  | .updating now =>
      let changed := state.row.map fun row => { row with heartbeatAt := now }
      let row := committedRow choice.outcome state.row changed
      some ({ state with row := row, holder := none }.heartbeatMoved number
        (afterCommit now choice.outcome))
  | .missed now =>
      some (state.heartbeatMoved number
        (if choice.succeeds = false then .returned false
        else if state.row.isSome then .closing now else .inserting now))
  | .inserting now =>
      if choice.rejected || state.row.isSome then
        some (state.heartbeatMoved number (.conflicted now))
      else
        let row := committedRow choice.outcome state.row (some (insertedRow recorder now))
        some ({ state with row := row }.heartbeatMoved number
          (afterCommit now choice.outcome))
  | .closing now => some (state.heartbeatMoved number (afterCommit now choice.outcome))
  | .conflicted now =>
      some (state.heartbeatMoved number
        (if choice.succeeds && state.row.isSome then .verified now else .returned false))
  | .verified now =>
      (updateRow state (.heartbeat number) choice.succeeds).map fun (updated, next) =>
        next.heartbeatMoved number
          (match updated with
          | .failed => .returned false
          | .found => .updating now
          | .missed => .closing now)
  | .recorded _ => some (state.heartbeatMoved number (.returned true))
  | .returned _ => none

/-- The next step of `mark_stopped`. -/
def stopStep
    (state : State)
    (number : Nat)
    (choice : Choice) : Option State :=
  match state.stops number with
  | .idle => some (state.stopMoved number .called)
  | .called => some ({ state with stopped := true }.stopMoved number .flagged)
  | .flagged =>
      some (state.stopMoved number
        (if choice.succeeds then .opened choice.now else .returned false))
  | .opened now =>
      (updateRow state (.stop number) choice.succeeds).map fun (updated, next) =>
        next.stopMoved number
          (match updated with
          | .failed => .returned false
          | .found => .updating now
          | .missed => .closing)
  | .updating now =>
      let changed := state.row.map fun row => { row with stoppedAt := some now }
      let row := committedRow choice.outcome state.row changed
      some ({ state with row := row, holder := none }.stopMoved number
        (.returned (reported choice.outcome)))
  | .closing => some (state.stopMoved number (.returned (reported choice.outcome)))
  | .returned _ => none

/-- One step. -/
def step (state : State) : Action → Option State
  | .heartbeat number choice => heartbeatStep recorder state number choice
  | .stop number choice => stopStep state number choice
  | .purge => if state.holder.isSome then none else some { state with row := none }

/-- The recorder of a process that has just started. -/
def system : System State Action where
  initial state := state = {}
  step := step recorder

end Steps

/-! ## What a step does -/

section Moves

variable {recorder : Recorder} {state next : State} {number : Nat} {choice : Choice}

theorem updateRow_cases
    {call : Call}
    {succeeds : Bool}
    {updated : Updated}
    (ran : updateRow state call succeeds = some (updated, next)) :
    state.holder = none ∧
      (updated = .failed ∧ next = state ∨
        updated = .found ∧ live state.row = true ∧ next = { state with holder := some call } ∨
        updated = .missed ∧ live state.row = false ∧ next = state) := by
  unfold updateRow at ran
  split at ran
  case isTrue held => exact nomatch ran
  case isFalse released =>
    refine ⟨by simpa using released, ?_⟩
    split at ran
    case isTrue failed =>
      cases ran
      exact .inl ⟨rfl, rfl⟩
    case isFalse succeeded =>
      split at ran
      case isTrue found =>
        cases ran
        exact .inr (.inl ⟨rfl, found, rfl⟩)
      case isFalse missed =>
        cases ran
        exact .inr (.inr ⟨rfl, by simpa using missed, rfl⟩)

/-- The phase has updated the row and not committed yet. -/
def HeartbeatPhase.holds : HeartbeatPhase → Bool
  | .updating _ => true
  | _ => false

/-- The phase has updated the row and not committed yet. -/
def StopPhase.holds : StopPhase → Bool
  | .updating _ => true
  | _ => false

/-- The update of the call has run, and its commit has not failed. -/
def StopPhase.settled : StopPhase → Bool
  | .closing => true
  | .returned result => result
  | _ => false

/-- The call has set the flag. -/
def StopPhase.begun : StopPhase → Bool
  | .idle => false
  | .called => false
  | _ => true

/-- The call has not tested the flag yet, or it has ended. -/
def HeartbeatPhase.ended : HeartbeatPhase → Bool
  | .idle => true
  | .called => true
  | .returned _ => true
  | _ => false

/-- What a step of `heartbeat` does to the row. -/
inductive HeartbeatMove
    (recorder : Recorder)
    (state : State)
    (number : Nat)
    (choice : Choice) : State → Prop where
  | quiet (phase : HeartbeatPhase)
      (before : (state.heartbeats number).holds = false)
      (after : phase.holds = false) :
      HeartbeatMove recorder state number choice (state.heartbeatMoved number phase)
  | acquires (phase : HeartbeatPhase)
      (released : state.holder = none)
      (found : live state.row = true) :
      HeartbeatMove recorder state number choice
        ({ state with holder := some (.heartbeat number) }.heartbeatMoved number phase)
  | commits (row : Option RuntimeRow) (phase : HeartbeatPhase)
      (before : (state.heartbeats number).holds = true)
      (same : live row = live state.row)
      (after : phase.holds = false) :
      HeartbeatMove recorder state number choice
        ({ state with row := row, holder := none }.heartbeatMoved number phase)
  | inserts (now : Instant) (phase : HeartbeatPhase)
      (before : state.heartbeats number = .inserting now)
      (absent : state.row = none)
      (accepted : choice.rejected = false ∧ choice.outcome ≠ .failed)
      (after : phase.holds = false) :
      HeartbeatMove recorder state number choice
        ({ state with row := some (insertedRow recorder now) }.heartbeatMoved number phase)

theorem afterCommit_holds
    (now : Instant)
    (outcome : CommitOutcome) :
    (afterCommit now outcome).holds = false := by
  unfold afterCommit
  split <;> rfl

theorem heartbeatMove_of_updateRow
    {found missed : HeartbeatPhase}
    (before : (state.heartbeats number).holds = false)
    (after : missed.holds = false)
    (stepped : ((updateRow state (.heartbeat number) choice.succeeds).map
      fun (updated, next) => next.heartbeatMoved number
        (match updated with
        | .failed => .returned false
        | .found => found
        | .missed => missed)) = some next) :
    HeartbeatMove recorder state number choice next := by
  obtain ⟨⟨updated, between⟩, ran, rfl⟩ := Option.map_eq_some_iff.mp stepped
  obtain ⟨released, ⟨rfl, rfl⟩ | ⟨rfl, live, rfl⟩ | ⟨rfl, -, rfl⟩⟩ := updateRow_cases ran
  · exact .quiet _ before rfl
  · exact .acquires _ released live
  · exact .quiet _ before after

theorem live_map_heartbeatAt
    (row : Option RuntimeRow)
    (now : Instant) :
    live (row.map fun present => { present with heartbeatAt := now }) = live row := by
  cases row <;> rfl

/-- Every step of `heartbeat` is one of those. -/
theorem heartbeatStep_moves
    (stepped : heartbeatStep recorder state number choice = some next) :
    HeartbeatMove recorder state number choice next := by
  unfold heartbeatStep at stepped
  cases phase : state.heartbeats number with
  | idle =>
      simp only [phase, Option.some.injEq] at stepped
      subst stepped
      exact .quiet _ (by rw [phase]; rfl) rfl
  | called =>
      simp only [phase, Option.some.injEq] at stepped
      subst stepped
      exact .quiet _ (by rw [phase]; rfl) (by split <;> rfl)
  | passed =>
      simp only [phase, Option.some.injEq] at stepped
      subst stepped
      exact .quiet _ (by rw [phase]; rfl) (by split <;> rfl)
  | opened now =>
      simp only [phase] at stepped
      exact heartbeatMove_of_updateRow (by rw [phase]; rfl) rfl stepped
  | updating now =>
      simp only [phase, Option.some.injEq] at stepped
      subst stepped
      refine .commits _ _ (by rw [phase]; rfl) ?_ (afterCommit_holds _ _)
      unfold committedRow
      split
      · rfl
      · exact live_map_heartbeatAt state.row now
  | missed now =>
      simp only [phase, Option.some.injEq] at stepped
      subst stepped
      exact .quiet _ (by rw [phase]; rfl) (by split <;> [rfl; split <;> rfl])
  | inserting now =>
      simp only [phase] at stepped
      split at stepped
      case isTrue conflict =>
        cases stepped
        exact .quiet _ (by rw [phase]; rfl) rfl
      case isFalse clear =>
        have absent : state.row = none := by
          simp only [Bool.or_eq_true, not_or] at clear
          exact Option.not_isSome_iff_eq_none.mp clear.2
        have accepted : choice.rejected = false := by
          simp only [Bool.or_eq_true, not_or] at clear
          exact Bool.not_eq_true _ ▸ clear.1
        cases stepped
        unfold committedRow
        split
        · exact .quiet _ (by rw [phase]; rfl) (afterCommit_holds _ _)
        · rename_i applied
          exact .inserts now _ phase absent ⟨accepted, applied⟩ (afterCommit_holds _ _)
  | closing now =>
      simp only [phase, Option.some.injEq] at stepped
      subst stepped
      exact .quiet _ (by rw [phase]; rfl) (afterCommit_holds _ _)
  | conflicted now =>
      simp only [phase, Option.some.injEq] at stepped
      subst stepped
      exact .quiet _ (by rw [phase]; rfl) (by split <;> rfl)
  | verified now =>
      simp only [phase] at stepped
      exact heartbeatMove_of_updateRow (by rw [phase]; rfl) rfl stepped
  | recorded now =>
      simp only [phase, Option.some.injEq] at stepped
      subst stepped
      exact .quiet _ (by rw [phase]; rfl) rfl
  | returned result => simp [phase] at stepped

/-- What a step of `mark_stopped` does to the row. -/
inductive StopMove
    (state : State)
    (number : Nat) : State → Prop where
  | quiet (stopped : Bool) (phase : StopPhase)
      (kept : state.stopped = true → stopped = true)
      (before : (state.stops number).holds = false)
      (after : phase.holds = false)
      (settled : phase.settled = true → (state.stops number).settled = true)
      (begun : phase.begun = true → stopped = true ∨ (state.stops number).begun = true) :
      StopMove state number ({ state with stopped := stopped }.stopMoved number phase)
  | misses
      (begun : (state.stops number).begun = true)
      (missed : live state.row = false) :
      StopMove state number (state.stopMoved number .closing)
  | acquires (phase : StopPhase)
      (begun : (state.stops number).begun = true)
      (released : state.holder = none)
      (found : live state.row = true)
      (unsettled : phase.settled = false) :
      StopMove state number
        ({ state with holder := some (.stop number) }.stopMoved number phase)
  | commits (row : Option RuntimeRow) (phase : StopPhase)
      (begun : (state.stops number).begun = true)
      (before : (state.stops number).holds = true)
      (changed : row = state.row ∧ phase.settled = false ∨ live row = false)
      (after : phase.holds = false) :
      StopMove state number
        ({ state with row := row, holder := none }.stopMoved number phase)

theorem live_map_stoppedAt
    (row : Option RuntimeRow)
    (now : Instant) :
    live (row.map fun present => { present with stoppedAt := some now }) = false := by
  cases row <;> rfl

/-- Every step of `mark_stopped` is one of those. -/
theorem stopStep_moves (stepped : stopStep state number choice = some next) :
    StopMove state number next := by
  unfold stopStep at stepped
  cases phase : state.stops number with
  | idle =>
      simp only [phase, Option.some.injEq] at stepped
      subst stepped
      exact .quiet state.stopped _ id (by rw [phase]; rfl) rfl nofun nofun
  | called =>
      simp only [phase, Option.some.injEq] at stepped
      subst stepped
      exact .quiet true _ (fun _ => rfl) (by rw [phase]; rfl) rfl nofun (fun _ => .inl rfl)
  | flagged =>
      simp only [phase, Option.some.injEq] at stepped
      subst stepped
      refine .quiet state.stopped _ id (by rw [phase]; rfl) ?_ ?_
        (fun _ => .inr (by rw [phase]; rfl))
      · split <;> rfl
      · split <;> nofun
  | opened now =>
      simp only [phase] at stepped
      have begun : (state.stops number).begun = true := by rw [phase]; rfl
      obtain ⟨⟨updated, between⟩, ran, rfl⟩ := Option.map_eq_some_iff.mp stepped
      obtain ⟨released, ⟨rfl, rfl⟩ | ⟨rfl, live, rfl⟩ | ⟨rfl, missed, rfl⟩⟩ :=
        updateRow_cases ran
      · exact .quiet between.stopped _ id (by rw [phase]; rfl) rfl (fun wrong => nomatch wrong)
          (fun _ => .inr begun)
      · exact .acquires _ begun released live rfl
      · exact .misses begun missed
  | updating now =>
      simp only [phase, Option.some.injEq] at stepped
      subst stepped
      refine .commits _ _ (by rw [phase]; rfl) (by rw [phase]; rfl) ?_ rfl
      cases choice.outcome with
      | failed => exact .inl ⟨rfl, rfl⟩
      | committed => exact .inr (live_map_stoppedAt state.row now)
      | appliedButReportedFailed => exact .inr (live_map_stoppedAt state.row now)
  | closing =>
      simp only [phase, Option.some.injEq] at stepped
      subst stepped
      exact .quiet state.stopped _ id (by rw [phase]; rfl) rfl (fun _ => by rw [phase]; rfl)
        (fun _ => .inr (by rw [phase]; rfl))
  | returned result => simp [phase] at stepped

/-- Once the flag is set, a call that has not passed it ends without a write. -/
theorem heartbeatStep_ended
    (flagged : state.stopped = true)
    (ended : (state.heartbeats number).ended = true)
    (stepped : heartbeatStep recorder state number choice = some next) :
    ∃ phase, phase.ended = true ∧ next = state.heartbeatMoved number phase := by
  unfold heartbeatStep at stepped
  cases phase : state.heartbeats number with
  | idle =>
      simp only [phase, Option.some.injEq] at stepped
      exact ⟨.called, rfl, stepped.symm⟩
  | called =>
      simp only [phase, flagged, if_true, Option.some.injEq] at stepped
      exact ⟨.returned false, rfl, stepped.symm⟩
  | returned result => simp [phase] at stepped
  | _ => simp [phase, HeartbeatPhase.ended] at ended

/-! ## The phases of the calls -/

/-- A call that holds the row after another one has moved on held it before. -/
theorem State.holds_heartbeatMoved
    {phase : HeartbeatPhase}
    {other : Nat}
    (after : phase.holds = false)
    (holds : ((state.heartbeatMoved number phase).heartbeats other).holds = true) :
    other ≠ number ∧ (state.heartbeats other).holds = true := by
  simp only [State.heartbeatMoved, Function.update_apply] at holds
  split at holds
  case isTrue => simp [after] at holds
  case isFalse different => exact ⟨different, holds⟩

theorem State.holds_stopMoved
    {phase : StopPhase}
    {other : Nat}
    (after : phase.holds = false)
    (holds : ((state.stopMoved number phase).stops other).holds = true) :
    other ≠ number ∧ (state.stops other).holds = true := by
  simp only [State.stopMoved, Function.update_apply] at holds
  split at holds
  case isTrue => simp [after] at holds
  case isFalse different => exact ⟨different, holds⟩

/-- A property of a phase after a call has moved on. -/
theorem State.stopMoved_cases
    (property : StopPhase → Prop)
    {phase : StopPhase}
    {other : Nat}
    (holds : property ((state.stopMoved number phase).stops other)) :
    property phase ∨ property (state.stops other) := by
  simp only [State.stopMoved, Function.update_apply] at holds
  split at holds
  · exact .inl holds
  · exact .inr holds

end Moves

end Status
end MailerAgent
