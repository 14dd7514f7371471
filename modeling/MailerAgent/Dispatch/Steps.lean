import MailerAgent.Foundation.Process
import MailerAgent.Dispatch.Generation
import MailerAgent.Dispatch.Worker

/-!
# Steps of the workers

One thread of a dispatch or generation worker as a state machine. The phases lie
at the points where other threads may interleave: between the reads of a
transaction and its commit, around the call of the sender or of the language
model, and between retried attempts. A choice says what the environment does
next. An action that is not enabled yields `none`.
-/

namespace MailerAgent
namespace Dispatch

open Concurrent Mail

/-! ## The dispatch worker -/

/-- Where a thread in `process_next_external_dispatch` stands. `began` is the
position in the run at which Transaction B began with its claim. -/
inductive DispatchPhase where
  | idle
  | attempting
  | claimed (began : Nat) (claim : ClaimedDispatch)
  | registered (began : Nat) (claim : ClaimedDispatch)
  /-- The gates have decided: a message to send, or the reason of a refusal. -/
  | decided (began : Nat) (claim : ClaimedDispatch) (decision : Except String ReadySend)
  /-- Transaction B is committed and the sender will be called. -/
  | prepared (began : Nat) (claim : ClaimedDispatch) (ready : ReadySend)
  /-- The sender has reported; `remaining` attempts follow the next one. -/
  | reporting (claim : ClaimedDispatch) (ready : ReadySend) (report : SendReport)
      (remaining : Nat)
  | annotating (claim : ClaimedDispatch) (ready : ReadySend) (report : SendReport)
  /-- Before `unregister`. -/
  | closing (claim : ClaimedDispatch)
  /-- Before `end_claim_attempt`. -/
  | abandoning

/-- What a dispatch thread meets next. -/
inductive DispatchChoice where
  | begin
  | claim (workerId : String) (locked : List Nat)
  | register
  | evaluate (makeMsgid : String → String)
  | commit (outcome : CommitOutcome)
  | send (behaviour : SendBehaviour)
  | databaseError
  | close

/-- Result of a step of a dispatch thread. -/
structure DispatchMove where
  database : Database
  runtime : DispatchRuntime
  phase : DispatchPhase
  calls : List SendCall := []

/-- What Transaction B does with the result of the gates. -/
def afterGates
    (began : Nat)
    (claim : ClaimedDispatch) :
    Except GateExit ReadySend → DispatchPhase
  | .ok ready => .decided began claim (.ok ready)
  | .error (.refused reason) => .decided began claim (.error reason)
  | .error .deferred => .closing claim
  | .error (.unavailable _) => .closing claim

/-- The next phase after an attempt of Transaction C that failed. -/
def retryOutcome
    (claim : ClaimedDispatch)
    (ready : ReadySend)
    (report : SendReport) :
    Nat → DispatchPhase
  | 0 => .annotating claim ready report
  | remaining + 1 => .reporting claim ready report remaining

/-- The commit of Transaction B. A claim whose row is no longer queued, and a
Message-ID that is taken, roll back. -/
def commitDecision
    (database : Database)
    (now : Instant)
    (began : Nat)
    (claim : ClaimedDispatch)
    (outcome : CommitOutcome) :
    Except String ReadySend → Database × DispatchPhase
  | .error reason =>
      ((commitRefusal database now claim reason).elim database (outcome.store database),
        .closing claim)
  | .ok ready =>
      match commitPrepared database claim ready with
      | none => (database, .closing claim)
      | some updated =>
          (outcome.store database updated,
            if outcome.reported then .prepared began claim ready else .closing claim)

/-- One attempt of Transaction C. -/
def recordOutcome
    (database : Database)
    (now : Instant)
    (claim : ClaimedDispatch)
    (ready : ReadySend)
    (report : SendReport)
    (remaining : Nat)
    (outcome : CommitOutcome) : Database × DispatchPhase :=
  match finishExternalDispatch database now claim (observedOutcome report)
      (recordedError report) with
  | none =>
      (database,
        if outcome.reported then .annotating claim ready report
        else retryOutcome claim ready report remaining)
  | some updated =>
      (outcome.store database updated,
        if outcome.reported then .closing claim
        else retryOutcome claim ready report remaining)

/-- `_annotate_late_outcome`. -/
def annotateLateOutcome
    (database : Database)
    (now : Instant)
    (claim : ClaimedDispatch)
    (ready : ReadySend)
    (report : SendReport)
    (outcome : CommitOutcome) : Database :=
  (annotateUnknownDispatch database now claim.dispatchId claim.organizationId
    (lateOutcomeNote claim ready.messageId report)).elim database
      (outcome.store database)

/-- The call of `send_email` for a prepared dispatch. -/
def dispatchCall
    (settings : Settings)
    (began : Nat)
    (claim : ClaimedDispatch)
    (ready : ReadySend)
    (behaviour : SendBehaviour) : SendCall where
  origin := .dispatch claim.dispatchId
  contactId := ready.contactId
  began := began
  arguments := ready.arguments
  report := behaviour.report settings ready.arguments

/-- One step of a thread in `process_next_external_dispatch`. -/
def dispatchStep
    (deployment : Deployment)
    (database : Database)
    (clock : Instant)
    (position : Nat)
    (runtime : DispatchRuntime) :
    DispatchPhase → DispatchChoice → Option DispatchMove
  | .idle, .begin =>
      runtime.beginClaimAttempt.map fun admitted =>
        { database, runtime := admitted, phase := .attempting }
  | .attempting, .claim workerId locked =>
      match if runtime.stopping then none
          else claimNextExternalDispatch database locked workerId clock with
      | none => some { database, runtime, phase := .abandoning }
      | some claim => some { database, runtime, phase := .claimed position claim }
  | .attempting, .databaseError => some { database, runtime, phase := .abandoning }
  | .claimed began claim, .register =>
      (runtime.registerClaimAttempt claim).map fun registered =>
        { database, runtime := registered, phase := .registered began claim }
  | .registered began claim, .evaluate makeMsgid =>
      (database.dispatches.get claim.dispatchId).map fun row =>
        { database, runtime,
          phase := afterGates began claim
            (evaluateGates deployment.settings deployment.services makeMsgid
              runtime.stopping database row) }
  | .registered _ claim, .databaseError =>
      some { database, runtime, phase := .closing claim }
  | .decided began claim decision, .commit outcome =>
      let result := commitDecision database clock began claim outcome decision
      some { database := result.1, runtime, phase := result.2 }
  | .decided _ claim _, .databaseError =>
      some { database, runtime, phase := .closing claim }
  | .prepared began claim ready, .send behaviour =>
      let call := dispatchCall deployment.settings began claim ready behaviour
      some
        { database, runtime,
          phase := .reporting claim ready call.report (transactionCAttempts - 1)
          calls := [call] }
  | .reporting claim ready report remaining, .commit outcome =>
      let result := recordOutcome database clock claim ready report remaining outcome
      some { database := result.1, runtime, phase := result.2 }
  | .reporting claim ready report remaining, .databaseError =>
      some { database, runtime, phase := retryOutcome claim ready report remaining }
  | .annotating claim ready report, .commit outcome =>
      some
        { database := annotateLateOutcome database clock claim ready report outcome
          runtime
          phase := .closing claim }
  | .annotating claim _ _, .databaseError =>
      some { database, runtime, phase := .closing claim }
  | .closing claim, .close =>
      some { database, runtime := runtime.unregister claim.dispatchId, phase := .idle }
  | .abandoning, .close =>
      runtime.endClaimAttempt.map fun released =>
        { database, runtime := released, phase := .idle }
  | _, _ => none

/-! ## The generation worker -/

/-- Where a thread in `process_next_generation` stands. -/
inductive GenerationPhase where
  | idle
  | prepared (prepared : PreparedGeneration)
  /-- The draft is there; `remaining` attempts of G2 follow the next one. -/
  | drafted (prepared : PreparedGeneration) (result : Except String Draft)
      (remaining : Nat)

/-- What a generation thread meets next. -/
inductive GenerationChoice where
  | claim (workerId : String) (locked : List Nat) (outcome : CommitOutcome)
  | draft (attempt : DraftAttempt)
  | commit (replyReference : String) (outcome : CommitOutcome)
  | databaseError

/-- Result of a step of a generation thread; `attached` is the dispatch and the
message of a committed generation. -/
structure GenerationMove where
  database : Database
  phase : GenerationPhase
  attached : List (Nat × Nat) := []

/-- The next phase after an attempt of G2 that failed. -/
def retryGeneration
    (prepared : PreparedGeneration)
    (result : Except String Draft) :
    Nat → GenerationPhase
  | 0 => .idle
  | remaining + 1 => .drafted prepared result remaining

/-- Transaction G1 with its commit. During a shutdown the transaction rolls back,
which is the effect of a commit that failed. -/
def claimGeneration
    (database : Database)
    (claim : ClaimedDispatch)
    (outcome : CommitOutcome) : GenerationMove :=
  match transactionG1 database claim with
  | none => { database, phase := .idle }
  | some (updated, .error _) =>
      { database := outcome.store database updated, phase := .idle }
  | some (updated, .ok prepared) =>
      { database := outcome.store database updated
        phase := if outcome.reported then .prepared prepared else .idle }

/-- One attempt of Transaction G2 with its commit. -/
def writeGeneration
    (database : Database)
    (prepared : PreparedGeneration)
    (result : Except String Draft)
    (remaining : Nat)
    (clock : Instant)
    (replyReference : String)
    (outcome : CommitOutcome) : GenerationMove :=
  match transactionG2 database prepared result clock replyReference with
  | .fenceLost => { database, phase := .idle }
  | .integrityError =>
      { database, phase := retryGeneration prepared result remaining }
  | .written updated =>
      { database := outcome.store database updated
        phase :=
          if outcome.reported then .idle else retryGeneration prepared result remaining
        attached :=
          if outcome.applied && result.isOk then
            [(prepared.claim.dispatchId, database.messages.size)]
          else [] }

/-- One step of a thread in `process_next_generation`. -/
def generationStep
    (database : Database)
    (clock : Instant)
    (runtime : DispatchRuntime) :
    GenerationPhase → GenerationChoice → Option GenerationMove
  | .idle, .claim workerId locked outcome =>
      if runtime.stopping then none
      else
        (claimNextGenerationDispatch database locked workerId clock).map fun claim =>
          claimGeneration database claim outcome
  | .prepared prepared, .draft attempt =>
      some
        { database
          phase := .drafted prepared (generate attempt) (transactionG2Attempts - 1) }
  | .drafted prepared result remaining, .commit replyReference outcome =>
      some (writeGeneration database prepared result remaining clock replyReference outcome)
  | .drafted prepared result remaining, .databaseError =>
      some { database, phase := retryGeneration prepared result remaining }
  | _, _ => none

end Dispatch
end MailerAgent
