import MailerAgent.Dispatch.History

/-!
# Results of the dispatch worker

What `process_next_external_dispatch` returns, read off the step with which it ends: a
refusal by the gates, or the outcome of the call of the sender, with whether the worker
could store it. Nothing is returned for a dispatch that was lost to another worker, left in
the queue, or interrupted by a database error.
-/

namespace MailerAgent
namespace Dispatch

open Concurrent Mail

/-- `DispatchResult`. -/
structure DispatchResult where
  dispatchId : Nat
  organizationId : String
  outcome : SendOutcome
  reason : Option String
  smtpAttempted : Bool
  persisted : Bool
  messageIdHeader : Option String := none
  deriving DecidableEq, Repr

/-- What `_fail_in_b` returns. -/
def refusedResult
    (claim : ClaimedDispatch)
    (reason : String) : DispatchResult where
  dispatchId := claim.dispatchId
  organizationId := claim.organizationId
  outcome := .failed
  reason := some reason
  smtpAttempted := false
  persisted := true

/-- What `_execute_and_finalize` returns. -/
def executedResult
    (claim : ClaimedDispatch)
    (ready : ReadySend)
    (report : SendReport)
    (persisted : Bool) : DispatchResult where
  dispatchId := claim.dispatchId
  organizationId := claim.organizationId
  outcome := observedOutcome report
  reason := recordedError report
  smtpAttempted := true
  persisted := persisted
  messageIdHeader := some ready.messageId

/-- The result that a step of a dispatch thread leads to. -/
def dispatchResult
    (database : Database)
    (now : Instant) :
    DispatchPhase → DispatchChoice → Option DispatchResult
  | .decided _ claim (.error reason), .commit outcome =>
      if outcome.reported then
        (commitRefusal database now claim reason).map fun _ => refusedResult claim reason
      else none
  | .reporting claim ready report _, .commit outcome =>
      if outcome.reported then
        (finishExternalDispatch database now claim (observedOutcome report)
          (recordedError report)).map fun _ => executedResult claim ready report true
      else none
  | .annotating claim ready report, .commit _ =>
      some (executedResult claim ready report false)
  | .annotating claim ready report, .databaseError =>
      some (executedResult claim ready report false)
  | _, _ => none

/-- The dispatch for which a thread has called the sender, and what the call reported. -/
def DispatchPhase.settling : DispatchPhase → Option (Nat × SendReport)
  | .reporting claim _ report _ => some (claim.dispatchId, report)
  | .annotating claim _ report => some (claim.dispatchId, report)
  | _ => none

section Step

variable
  {deployment : Deployment}
  {database : Database}
  {clock : Instant}
  {position : Nat}
  {runtime : DispatchRuntime}
  {phase : DispatchPhase}
  {choice : DispatchChoice}
  {move : DispatchMove}

theorem settling_afterGates
    {began : Nat}
    {claim : ClaimedDispatch}
    (result : Except GateExit ReadySend) :
    (afterGates began claim result).settling = none := by
  cases result with
  | ok ready => rfl
  | error exit => cases exit <;> rfl

theorem settling_retryOutcome
    {claim : ClaimedDispatch}
    {ready : ReadySend}
    {report : SendReport}
    (remaining : Nat) :
    (retryOutcome claim ready report remaining).settling = some (claim.dispatchId, report) := by
  cases remaining <;> rfl

theorem settling_commitDecision
    {now : Instant}
    {began : Nat}
    {claim : ClaimedDispatch}
    {outcome : CommitOutcome}
    (decision : Except String ReadySend) :
    (commitDecision database now began claim outcome decision).2.settling = none := by
  cases decision with
  | error reason => rfl
  | ok ready =>
      unfold commitDecision
      dsimp only
      split
      · rfl
      · split <;> rfl

theorem settling_recordOutcome
    {now : Instant}
    {claim : ClaimedDispatch}
    {ready : ReadySend}
    {report : SendReport}
    {remaining : Nat}
    {outcome : CommitOutcome}
    {settled : Nat × SendReport}
    (settling : (recordOutcome database now claim ready report remaining outcome).2.settling =
      some settled) :
    settled = (claim.dispatchId, report) := by
  unfold recordOutcome at settling
  have retried := @settling_retryOutcome claim ready report remaining
  split at settling <;> dsimp only at settling <;> split at settling
  · exact (Option.some.inj settling).symm
  · exact (Option.some.inj (retried.symm.trans settling)).symm
  · cases settling
  · exact (Option.some.inj (retried.symm.trans settling)).symm

/-- Where a thread comes from that has called the sender. -/
theorem settling_of_dispatchStep
    {settled : Nat × SendReport}
    (stepped : dispatchStep deployment database clock position runtime phase choice =
      some move)
    (settling : move.phase.settling = some settled) :
    phase.settling = some settled ∨
      ∃ call, phase.prepares = some settled.1 ∧ move.calls = [call] ∧
        call.origin = .dispatch settled.1 ∧ call.report = settled.2 := by
  unfold dispatchStep at stepped
  split at stepped
  · obtain ⟨admitted, -, rfl⟩ := Option.map_eq_some_iff.mp stepped
    cases settling
  · split at stepped <;> cases stepped <;> cases settling
  · cases stepped
    cases settling
  · obtain ⟨registered, -, rfl⟩ := Option.map_eq_some_iff.mp stepped
    cases settling
  · obtain ⟨row, -, rfl⟩ := Option.map_eq_some_iff.mp stepped
    rw [settling_afterGates] at settling
    cases settling
  · cases stepped
    cases settling
  · cases stepped
    rw [settling_commitDecision] at settling
    cases settling
  · cases stepped
    cases settling
  · cases stepped
    obtain rfl := Option.some.inj settling
    exact .inr ⟨_, rfl, rfl, rfl, rfl⟩
  · cases stepped
    obtain rfl := settling_recordOutcome settling
    exact .inl rfl
  · cases stepped
    rw [settling_retryOutcome] at settling
    exact .inl settling
  · cases stepped
    cases settling
  · cases stepped
    cases settling
  · cases stepped
    cases settling
  · obtain ⟨released, -, rfl⟩ := Option.map_eq_some_iff.mp stepped
    cases settling
  · cases stepped

/-- How a thread comes to its result. -/
inductive Concluded
    (database : Database)
    (phase : DispatchPhase)
    (move : DispatchMove)
    (result : DispatchResult) : Prop where
  | refused
      (queued : dispatchState database result.dispatchId = .queued)
      (failed : dispatchState move.database result.dispatchId = .failed)
      (unattempted : result.smtpAttempted = false)
      (outcome : result.outcome = .failed)
      (persisted : result.persisted = true)
  | executed
      (report : SendReport)
      (settled : phase.settling = some (result.dispatchId, report))
      (attempted : result.smtpAttempted = true)
      (outcome : result.outcome = observedOutcome report)
      (stored : result.persisted = true →
        dispatchState move.database result.dispatchId = outcomeState result.outcome)

theorem concluded_of_dispatchResult
    {result : DispatchResult}
    (consistent : Consistent database)
    (stepped : dispatchStep deployment database clock position runtime phase choice =
      some move)
    (returned : dispatchResult database clock phase choice = some result) :
    Concluded database phase move result ∧ move.phase.settling = none ∧ move.calls = [] := by
  unfold dispatchResult at returned
  split at returned
  · next began claim reason outcome =>
      split at returned
      · next reported =>
          obtain ⟨updated, refused, rfl⟩ := Option.map_eq_some_iff.mp returned
          cases stepped
          obtain ⟨row, message, stored, found, queued, -, -, equal⟩ :=
            commitRefusal_eq_some consistent refused
          refine ⟨.refused ?_ ?_ rfl rfl rfl, rfl, rfl⟩
          · exact (dispatchState_of_get found).trans queued
          · have applied : outcome = .committed := by
              cases outcome <;> first | rfl | cases reported
            subst applied
            change dispatchState ((commitRefusal database clock claim reason).elim _ _) _ = _
            rw [refused, Option.elim_some, equal]
            exact (dispatchState_modifyDispatch found claim.dispatchId).trans (if_pos rfl)
      · cases returned
  · next claim ready report remaining outcome =>
      split at returned
      · next reported =>
          obtain ⟨updated, finished, rfl⟩ := Option.map_eq_some_iff.mp returned
          cases stepped
          have applied : outcome = .committed := by
            cases outcome <;> first | rfl | cases reported
          subst applied
          have result : recordOutcome database clock claim ready report remaining .committed =
              (updated, .closing claim) := by
            unfold recordOutcome
            rw [finished]
            rfl
          dsimp only
          rw [result]
          refine ⟨.executed report rfl rfl rfl fun _ => ?_, rfl, rfl⟩
          exact ((finishExternalDispatch_state consistent finished).2 claim.dispatchId).trans
            (if_pos rfl)
      · cases returned
  · cases returned
    cases stepped
    exact ⟨.executed _ rfl rfl rfl nofun, rfl, rfl⟩
  · cases returned
    cases stepped
    exact ⟨.executed _ rfl rfl rfl nofun, rfl, rfl⟩
  · cases returned

end Step

end Dispatch
end MailerAgent
