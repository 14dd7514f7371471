import MailerAgent.Config
import MailerAgent.Foundation.Keyed
import MailerAgent.Status.Counters
import MailerAgent.Status.Recorder

/-!
# The status tables of all processes

The tables `worker_runtime_status` and `worker_cycle_status`, with the recorders of any
number of processes over them. Each recorder's calls of `heartbeat` and `mark_stopped` step
as they do alone; `record_cycle` reads the row of its kind and writes it back with its
commit; `cleanup_stale_records` deletes in three statements, each of which sees the rows as
they are when it runs and keeps what it has deleted from the other transactions until its
end. A job has one instance per process, so a process records one cycle of a kind at a time.
-/

namespace MailerAgent
namespace Status

open Concurrent Relational Transition

/-! ## Cycle rows -/

/-- A row of `worker_cycle_status`, which is kept under its process and its kind. -/
structure CycleRow where
  lastCycleAt : Instant
  lastOutcome : CycleOutcome
  lastCompletedAt : Option Instant := none
  consecutiveUnhealthyCycles : Nat := 0
  cyclesRecorded : Nat := 0
  lastErrorType : Option String := none
  lastCounts : Option CountMapping := none
  totalCounts : Option CountMapping := none
  deriving DecidableEq, Repr

/-- The arguments of `record_cycle`. -/
structure RecordRequest where
  kind : String
  outcome : String
  counts : Option CountMapping := none
  errorType : Option String := none
  deriving DecidableEq, Repr

/-- A cycle that passed the guard of `record_cycle`, with the time read for it. -/
structure Recording where
  now : Instant
  outcome : CycleOutcome
  counts : Option CountMapping := none
  errorType : Option String := none
  deriving DecidableEq, Repr

/-- The row that `record_cycle` adds when it finds none. -/
def freshCycleRow
    (kind : CycleKind)
    (recording : Recording) : CycleRow where
  lastCycleAt := recording.now
  lastOutcome := recording.outcome
  totalCounts := some (storedCounts (cleanCounts kind none))

/-- The row that `record_cycle` writes, from the one that it has read. -/
def recordedRow
    (kind : CycleKind)
    (seen : Option CycleRow)
    (recording : Recording) : CycleRow :=
  let row := seen.getD (freshCycleRow kind recording)
  let clean := cleanCounts kind recording.counts
  let row := { row with
    lastCycleAt := recording.now
    lastOutcome := recording.outcome
    cyclesRecorded := row.cyclesRecorded + 1
    lastCounts := some (storedCounts clean)
    totalCounts := some (storedCounts (addCounts (cleanCounts kind row.totalCounts) clean)) }
  match recording.outcome with
  | .completed => { row with
      lastCompletedAt := some recording.now
      consecutiveUnhealthyCycles := 0
      lastErrorType := none }
  | _ => { row with
      consecutiveUnhealthyCycles := row.consecutiveUnhealthyCycles + 1
      lastErrorType := safeErrorType recording.errorType }

/-! ## State -/

/-- Where the recording of one kind of cycle is. -/
inductive RecordPhase where
  | idle
  /-- Before the search for the row. -/
  | opened (recording : Recording)
  /-- Before the flush and the commit, with the row that was found. -/
  | read (recording : Recording) (seen : Option CycleRow)
  deriving DecidableEq, Repr

/-- The next statement of a clean-up. -/
inductive SweepStage where
  /-- Delete the cycle rows of dead processes. -/
  | opened
  /-- Delete the rows of dead processes. -/
  | cyclesDeleted
  /-- Delete the cycle rows without a process row. -/
  | runtimesDeleted
  /-- Commit. -/
  | orphansDeleted
  deriving DecidableEq, Repr

/-- A call of `cleanup_stale_records`. -/
structure Sweep where
  owner : String
  cutoff : Instant
  stage : SweepStage := .opened
  deriving DecidableEq, Repr

/-- The calls of one recorder: its state without the row. -/
structure Calls where
  holder : Option Call := none
  stopped : Bool := false
  heartbeats : Nat → HeartbeatPhase := fun _ => .idle
  stops : Nat → StopPhase := fun _ => .idle

/-- The tables, the calls of every process, and the clean-up that has deleted a row and not
ended yet. -/
structure Fleet where
  runtimes : Keyed String RuntimeRow := .empty
  cycles : Keyed (String × CycleKind) CycleRow := .empty
  calls : String → Calls := fun _ => {}
  records : String × CycleKind → RecordPhase := fun _ => .idle
  sweeps : Nat → Option Sweep := fun _ => none
  runtimeLocks : String → Option Nat := fun _ => none
  cycleLocks : String × CycleKind → Option Nat := fun _ => none

/-- The processes: what their recorders know, and the retention window in hours. -/
structure Roster where
  recorder : String → Recorder
  workerRuntimeRetentionHours : Nat := 72

/-- A step of one of the processes. -/
inductive FleetAction where
  | heartbeat (process : String) (number : Nat) (choice : Choice)
  | stop (process : String) (number : Nat) (choice : Choice)
  /-- `record_cycle`, up to the opening of its session. -/
  | record (process : String) (request : RecordRequest) (choice : Choice)
  /-- The next statement of `record_cycle`. -/
  | recordOn (process : String) (kind : CycleKind) (choice : Choice)
  /-- `cleanup_stale_records`, up to the opening of its session. -/
  | sweep (number : Nat) (owner : String) (now : Instant)
  /-- The next statement of a clean-up. -/
  | sweepOn (number : Nat) (choice : Choice)
  deriving DecidableEq, Repr

/-! ## Steps -/

/-- The next statement waits for a clean-up that has deleted the row. -/
def HeartbeatPhase.touches : HeartbeatPhase → Bool
  | .opened _ => true
  | .inserting _ => true
  | .verified _ => true
  | _ => false

/-- The next statement waits for a clean-up that has deleted the row. -/
def StopPhase.touches : StopPhase → Bool
  | .opened _ => true
  | _ => false

namespace Fleet

variable (fleet : Fleet)

/-- What one recorder sees: its calls and its row. -/
def view (process : String) : State where
  row := fleet.runtimes.get process
  holder := (fleet.calls process).holder
  stopped := (fleet.calls process).stopped
  heartbeats := (fleet.calls process).heartbeats
  stops := (fleet.calls process).stops

/-- One recorder has taken a step. -/
def recorderMoved
    (process : String)
    (state : State) : Fleet :=
  { fleet with
    runtimes := state.row.elim fleet.runtimes (fleet.runtimes.put process)
    calls := Function.update fleet.calls process
      ⟨state.holder, state.stopped, state.heartbeats, state.stops⟩ }

/-- The recording of a kind of cycle goes on. -/
def recordMoved
    (key : String × CycleKind)
    (phase : RecordPhase) : Fleet :=
  { fleet with records := Function.update fleet.records key phase }

/-- The flush and the commit are applied: the update meets the row that was read, or the
insertion meets none. -/
def accepts
    (key : String × CycleKind)
    (seen : Option CycleRow)
    (choice : Choice) : Bool :=
  (fleet.cycles.get key).isSome == seen.isSome && choice.outcome != .failed

/-- A clean-up goes on. -/
def sweepMoved
    (number : Nat)
    (sweep : Option Sweep) : Fleet :=
  { fleet with sweeps := Function.update fleet.sweeps number sweep }

/-- A clean-up ends its transaction. -/
def released (number : Nat) : Fleet :=
  { fleet.sweepMoved number none with
    runtimeLocks := fun process =>
      if fleet.runtimeLocks process = some number then none else fleet.runtimeLocks process
    cycleLocks := fun key =>
      if fleet.cycleLocks key = some number then none else fleet.cycleLocks key }

/-- What a clean-up has deleted is gone. -/
def purged (number : Nat) : Fleet :=
  { fleet with
    runtimes := fleet.runtimes.removeWhere fun process _ =>
      fleet.runtimeLocks process = some number
    cycles := fleet.cycles.removeWhere fun key _ => fleet.cycleLocks key = some number }

/-- The process is not the owner of the clean-up, and its heartbeat is too old. -/
def dead
    (sweep : Sweep)
    (process : String) : Bool :=
  process != sweep.owner &&
    (fleet.runtimes.get process).any fun row => row.heartbeatAt < sweep.cutoff

/-- The row of the process is there, as the statements of a clean-up see it. -/
def known
    (number : Nat)
    (process : String) : Bool :=
  (fleet.runtimes.get process).isSome && fleet.runtimeLocks process != some number

/-- The cycle rows that a statement of a clean-up deletes. -/
def doomedCycle
    (number : Nat)
    (sweep : Sweep)
    (key : String × CycleKind) : Bool :=
  fleet.cycleLocks key != some number &&
    match sweep.stage with
    | .opened => (fleet.cycles.get key).isSome && fleet.dead sweep key.1
    | .runtimesDeleted =>
        key.1 != sweep.owner && !fleet.known number key.1 &&
          (fleet.cycles.get key).any fun row => row.lastCycleAt < sweep.cutoff
    | _ => false

/-- A statement of a clean-up deletes cycle rows, once no other clean-up keeps them. -/
def deleteCycles
    (number : Nat)
    (sweep : Sweep) : Option Fleet :=
  if fleet.cycles.entries.any fun (key, _) =>
      fleet.doomedCycle number sweep key && (fleet.cycleLocks key).isSome then none
  else some { fleet with
    cycleLocks := fun key =>
      if fleet.doomedCycle number sweep key then some number else fleet.cycleLocks key }

/-- A clean-up deletes the rows of dead processes, once no other transaction keeps them. -/
def deleteRuntimes
    (number : Nat)
    (sweep : Sweep) : Option Fleet :=
  if fleet.runtimes.entries.any fun (process, _) => fleet.dead sweep process &&
      ((fleet.runtimeLocks process).isSome || (fleet.calls process).holder.isSome) then none
  else some { fleet with
    runtimeLocks := fun process =>
      if fleet.dead sweep process then some number else fleet.runtimeLocks process }

/-- The next statement of a clean-up. -/
def sweepStep
    (number : Nat)
    (sweep : Sweep)
    (choice : Choice) : Option Fleet :=
  if choice.succeeds = false then some (fleet.released number)
  else
    match sweep.stage with
    | .opened => (fleet.deleteCycles number sweep).map fun next =>
        next.sweepMoved number (some { sweep with stage := .cyclesDeleted })
    | .cyclesDeleted => (fleet.deleteRuntimes number sweep).map fun next =>
        next.sweepMoved number (some { sweep with stage := .runtimesDeleted })
    | .runtimesDeleted => (fleet.deleteCycles number sweep).map fun next =>
        next.sweepMoved number (some { sweep with stage := .orphansDeleted })
    | .orphansDeleted =>
        some ((if choice.outcome = .failed then fleet else fleet.purged number).released number)

/-- The next statement of `record_cycle`. -/
def recordStep
    (key : String × CycleKind)
    (choice : Choice) : Option Fleet :=
  match fleet.records key with
  | .idle => none
  | .opened recording =>
      some (fleet.recordMoved key
        (if choice.succeeds then .read recording (fleet.cycles.get key) else .idle))
  | .read recording seen =>
      if (fleet.cycleLocks key).isSome then none
      else if fleet.accepts key seen choice then
        some ({ fleet with
          cycles := fleet.cycles.put key (recordedRow key.2 seen recording) }.recordMoved
            key .idle)
      else some (fleet.recordMoved key .idle)

variable (roster : Roster)

/-- One step. -/
def step (fleet : Fleet) : FleetAction → Option Fleet
  | .heartbeat process number choice =>
      if (fleet.runtimeLocks process).isSome &&
          ((fleet.calls process).heartbeats number).touches then none
      else
        (heartbeatStep (roster.recorder process) (fleet.view process) number choice).map
          (fleet.recorderMoved process)
  | .stop process number choice =>
      if (fleet.runtimeLocks process).isSome &&
          ((fleet.calls process).stops number).touches then none
      else (stopStep (fleet.view process) number choice).map (fleet.recorderMoved process)
  | .record process request choice =>
      match CycleKind.ofValue request.kind, CycleOutcome.ofValue request.outcome with
      | some kind, some outcome =>
          if fleet.records (process, kind) = .idle then
            some (fleet.recordMoved (process, kind)
              (if choice.succeeds then
                .opened ⟨choice.now, outcome, request.counts, request.errorType⟩
              else .idle))
          else none
      | _, _ => some fleet
  | .recordOn process kind choice => fleet.recordStep (process, kind) choice
  | .sweep number owner now =>
      if (fleet.sweeps number).isSome then none
      else
        let cutoff := now - roster.workerRuntimeRetentionHours * 3600 * second
        some (fleet.sweepMoved number (some ⟨owner, cutoff, .opened⟩))
  | .sweepOn number choice =>
      (fleet.sweeps number).bind fun sweep => fleet.sweepStep number sweep choice

/-- The processes over empty tables. -/
def system : System Fleet FleetAction where
  initial fleet := fleet = {}
  step := step roster

end Fleet

end Status
end MailerAgent
