import MailerAgent.Foundation.Transition
import MailerAgent.Dispatch.History
import MailerAgent.Intake.Idempotency
import MailerAgent.Native.ApiSafety

/-!
# The whole program

All components over one database: the dispatch and generation workers of any
number of processes, their lease sweeps and shutdowns, the intake requests, and
the native operations. An action lets one component take one step, with everything
the environment decides about it. What leaves the database is logged: the calls of
the sender, the Seen flags, and the messages that generation committed.
-/

namespace MailerAgent

open Concurrent Mail Dispatch Intake Native

/-- A worker thread of a process. -/
structure Worker where
  process : Nat
  thread : Nat
  deriving DecidableEq, Repr

/-- A thread of a native operation. -/
abbrev NativeThread :=
  Thread Database Change Signal Signal.Reply (Except Failure Unit × List Change)

/-- A native operation that was started, with what was observed of its
interactions and the position at which the current sending operation began. -/
structure Running where
  operation : Operation
  thread : NativeThread
  observed : Observed
  began : Nat

/-- A stored Seen flag: the mailbox, the message number and its content. -/
structure SeenMark where
  mailboxId : Nat
  uid : Nat
  email : InboundEmail

/-- The state of the program. `position` counts the steps taken, `draining` holds
the claims that a shutdown of the process has yet to resolve, and `attached` the
dispatches and messages of committed generations. -/
structure World where
  database : Database := {}
  clock : Instant := 0
  position : Nat := 0
  runtimes : Nat → DispatchRuntime := fun _ => {}
  draining : Nat → List ClaimedDispatch := fun _ => []
  dispatchers : Worker → DispatchPhase := fun _ => .idle
  generators : Worker → GenerationPhase := fun _ => .idle
  requests : Nat → RequestPhase := fun _ => .absent
  natives : Nat → Option Running := fun _ => none
  calls : List SendCall := []
  seen : List SeenMark := []
  attached : List (Nat × Nat) := []

/-- The steps of the program. -/
inductive Action where
  | dispatch (worker : Worker) (choice : DispatchChoice)
  | generation (worker : Worker) (choice : GenerationChoice)
  /-- `run_external_dispatch_lease_recovery`. -/
  | sweepSends (locked : List Nat) (limit : Nat) (outcome : CommitOutcome)
  /-- `run_generation_lease_recovery`. -/
  | sweepGenerations (locked : List Nat) (limit : Nat) (outcome : CommitOutcome)
  /-- `begin_external_dispatch_shutdown`. -/
  | requestShutdown (process : Nat)
  /-- `resume_if_idle`. -/
  | resume (process : Nat)
  /-- The end of the wait of `drain_external_dispatches_on_shutdown`. -/
  | drain (process : Nat)
  /-- The resolution of one claim that was still in flight. -/
  | resolve (process : Nat) (outcome : CommitOutcome)
  /-- The process dies with all its worker threads. -/
  | crash (process : Nat)
  | request (number : Nat) (choice : RequestChoice)
  | start (number : Nat) (operation : Operation)
  | native (number : Nat) (stimulus : Stimulus Signal Signal.Reply)
  /-- The thread of a native operation dies. -/
  | stop (number : Nat)
  | setClock (instant : Instant)

/-! ## Native operations -/

/-- The mailbox and the identity of the message that is being handled. -/
def handledMessage (observed : Observed) : Option (Nat × String) :=
  observed.connection.bind fun mailboxId =>
    (observed.current.bind Prod.snd).bind fun email =>
      (inboundIdentity email.normalized).map fun identity => (mailboxId, identity)

/-- A new operation. -/
def Running.start
    (deployment : Deployment)
    (database : Database)
    (position : Nat)
    (operation : Operation) : Running where
  operation := operation
  thread := ⟨operation.program deployment [], {}⟩
  observed := { since := database }
  began := position

/-- The position at which the current sending operation began. -/
def beganAfter (position began : Nat) : Option Signal → Nat
  | some .begin => position
  | _ => began

/-- The calls of the sender that an interaction makes. -/
def Running.calls
    (settings : Settings)
    (running : Running)
    (stimulus : Stimulus Signal Signal.Reply) :
    Option Signal → List SendCall
  | some (.sendEmail origin contactId arguments) =>
      [{ origin := origin
         contactId := contactId
         began := running.began
         arguments := arguments
         report := SendBehaviour.report settings arguments
           (stimulus.answer (.sendEmail origin contactId arguments))
         answers := handledMessage running.observed }]
  | _ => []

/-- The Seen flags that an interaction stores. -/
def seenMarks : Option Signal → List SeenMark
  | some (.storeSeen mailboxId uid email) => [⟨mailboxId, uid, email⟩]
  | _ => []

/-- The operation after a step of its thread. -/
def Running.after
    (running : Running)
    (database : Database)
    (position : Nat)
    (stimulus : Stimulus Signal Signal.Reply)
    (thread : NativeThread)
    (asked : Option Signal) : Running where
  operation := running.operation
  thread := thread
  observed := noteAsked contract running.observed database stimulus asked
  began := beganAfter position running.began asked

/-! ## Shutdown -/

/-- One claim of `drain_external_dispatches_on_shutdown`. -/
def resolveOnShutdown
    (database : Database)
    (now : Instant)
    (claim : ClaimedDispatch)
    (outcome : CommitOutcome) : Database :=
  (finishExternalDispatch database now claim .unknown (some shutdownReason)).elim database
    (outcome.store database)

/-! ## Steps -/

namespace World

variable (deployment : Deployment) (world : World)

/-- A dispatch thread takes a step. -/
def dispatchMoved
    (worker : Worker)
    (move : DispatchMove) : World :=
  { world with
    database := move.database
    runtimes := Function.update world.runtimes worker.process move.runtime
    dispatchers := Function.update world.dispatchers worker move.phase
    calls := world.calls ++ move.calls }

/-- A generation thread takes a step. -/
def generationMoved
    (worker : Worker)
    (move : GenerationMove) : World :=
  { world with
    database := move.database
    generators := Function.update world.generators worker move.phase
    attached := world.attached ++ move.attached }

/-- A request takes a step. -/
def requestMoved
    (number : Nat)
    (move : RequestMove) : World :=
  { world with
    database := move.database
    requests := Function.update world.requests number move.phase }

/-- A native operation takes a step. -/
def nativeMoved
    (number : Nat)
    (running : Running)
    (stimulus : Stimulus Signal Signal.Reply)
    (database : Database)
    (thread : NativeThread)
    (asked : Option Signal) : World :=
  { world with
    database := database
    natives := Function.update world.natives number
      (some (running.after world.database world.position stimulus thread asked))
    calls := world.calls ++ running.calls deployment.settings stimulus asked
    seen := world.seen ++ seenMarks asked }

/-- A process dies. -/
def crashed (process : Nat) : World :=
  { world with
    runtimes := Function.update world.runtimes process {}
    draining := Function.update world.draining process []
    dispatchers := fun worker =>
      if worker.process = process then .idle else world.dispatchers worker
    generators := fun worker =>
      if worker.process = process then .idle else world.generators worker }

/-- The effect of an action, without the count of steps. -/
def move : Action → Option World
  | .dispatch worker choice =>
      (dispatchStep deployment world.database world.clock world.position
        (world.runtimes worker.process) (world.dispatchers worker) choice).map
          (world.dispatchMoved worker)
  | .generation worker choice =>
      (generationStep world.database world.clock (world.runtimes worker.process)
        (world.generators worker) choice).map (world.generationMoved worker)
  | .sweepSends locked limit outcome =>
      some { world with
        database := outcome.store world.database
          (recoverExpiredExternalDispatches deployment.services
            deployment.settings.externalDispatchLeaseSeconds world.database world.clock
            locked limit).2 }
  | .sweepGenerations locked limit outcome =>
      some { world with
        database := outcome.store world.database
          (recoverExpiredGenerations
            deployment.settings.externalDispatchGenerationLeaseSeconds world.database
            world.clock locked limit).2 }
  | .requestShutdown process =>
      some { world with
        runtimes := Function.update world.runtimes process
          (world.runtimes process).requestShutdown }
  | .resume process =>
      some { world with
        runtimes := Function.update world.runtimes process
          (world.runtimes process).resumeIfIdle }
  | .drain process =>
      some { world with
        draining := Function.update world.draining process
          (world.runtimes process).inflight }
  | .resolve process outcome =>
      match world.draining process with
      | [] => none
      | claim :: rest =>
          some { world with
            database := resolveOnShutdown world.database world.clock claim outcome
            draining := Function.update world.draining process rest }
  | .crash process => some (world.crashed process)
  | .request number choice =>
      (requestStep deployment world.database world.clock (world.requests number) choice).map
        (world.requestMoved number)
  | .start number operation =>
      if (world.natives number).isSome then none
      else
        some { world with
          natives := Function.update world.natives number
            (some (.start deployment world.database world.position operation)) }
  | .native number stimulus =>
      (world.natives number).bind fun running =>
        (running.thread.step Change.apply world.database stimulus).map
          fun (database, thread, asked) =>
            world.nativeMoved deployment number running stimulus database thread asked
  | .stop number =>
      some { world with natives := Function.update world.natives number none }
  | .setClock instant => some { world with clock := instant }

/-- One step. -/
def step (action : Action) : Option World :=
  (world.move deployment action).map fun next =>
    { next with position := world.position + 1 }

end World

/-- The program over an empty database. -/
def system (deployment : Deployment) : Transition.System World Action where
  initial world := ∃ clock, world = { clock := clock }
  step := World.step deployment

end MailerAgent
