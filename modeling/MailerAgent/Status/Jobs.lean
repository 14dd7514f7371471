import MailerAgent.Dispatch.Results
import MailerAgent.Status.Fleet

/-!
# What the dispatch jobs record

The two jobs of `scheduler.py` that run a cycle over the dispatches, as far as they report
it: the counters of the results and the outcome of the cycle.
-/

namespace MailerAgent
namespace Status

open Dispatch Mail

/-- The outcomes of a generation. -/
inductive GenerationOutcome where
  | generated
  | failed
  | leaseLost
  deriving DecidableEq, Repr

/-- `GenerationResult`, as far as it is counted. -/
structure GenerationResult where
  outcome : GenerationOutcome
  persisted : Bool
  deriving DecidableEq, Repr

/-- `summarize_dispatch_results`. -/
def summarizeDispatchResults (results : List DispatchResult) : List (String × Nat) :=
  [("processed", results.length),
    ("smtp_attempted", results.countP fun result => result.smtpAttempted),
    ("smtp_accepted", results.countP fun result => result.outcome == .sent),
    ("failed", results.countP fun result => result.outcome == .failed),
    ("unknown", results.countP fun result => result.outcome == .unknown),
    ("outcome_not_persisted", results.countP fun result => !result.persisted)]

/-- `summarize_generation_results`. -/
def summarizeGenerationResults (results : List GenerationResult) : List (String × Nat) :=
  [("processed", results.length),
    ("generated", results.countP fun result => result.outcome == .generated),
    ("failed", results.countP fun result => result.outcome == .failed),
    ("outcome_not_persisted", results.countP fun result => !result.persisted)]

/-- How a cycle function ends: with its results, perhaps before the end of its work because
of a database error that it caught itself, or with an exception. -/
inductive CycleEnd (Result : Type) where
  | returned (results : List Result) (aborted : Bool)
  | raised (exceptionName : String)

/-- What a job records of a cycle. -/
def cycleRequest
    {Result : Type}
    (kind : CycleKind)
    (summarize : List Result → List (String × Nat)) : CycleEnd Result → RecordRequest
  | .raised exceptionName =>
      ⟨kind.value, CycleOutcome.failed.value, none, some exceptionName⟩
  | .returned results aborted =>
      let counts := summarize results
      if aborted then
        ⟨kind.value, CycleOutcome.failed.value, some (storedCounts counts),
          some "DatabaseErrorCaughtByCycle"⟩
      else if (counts.lookup "outcome_not_persisted").getD 0 ≠ 0 then
        ⟨kind.value, CycleOutcome.degraded.value, some (storedCounts counts), none⟩
      else ⟨kind.value, CycleOutcome.completed.value, some (storedCounts counts), none⟩

/-- `dispatch_external_dispatches_job`. -/
def dispatchExternalDispatchesJob : CycleEnd DispatchResult → RecordRequest :=
  cycleRequest .externalDispatch summarizeDispatchResults

/-- `generate_external_dispatches_job`. -/
def generateExternalDispatchesJob : CycleEnd GenerationResult → RecordRequest :=
  cycleRequest .generation summarizeGenerationResults

/-- The counters of a cycle of dispatches fit together. -/
structure Balanced
    (outcome : CycleOutcome)
    (count : String → Nat) : Prop where
  processed : count "processed" = count "smtp_accepted" + count "failed" + count "unknown"
  attempted : count "smtp_attempted" ≤ count "processed"
  unpersisted : count "outcome_not_persisted" ≤ count "processed"
  completed : outcome = .completed → count "outcome_not_persisted" = 0

theorem length_eq_outcomes (results : List DispatchResult) :
    results.length = results.countP (fun result => result.outcome == .sent) +
      results.countP (fun result => result.outcome == .failed) +
      results.countP fun result => result.outcome == .unknown := by
  induction results with
  | nil => rfl
  | cons result results inductionHypothesis =>
      rw [List.length_cons, List.countP_cons, List.countP_cons, List.countP_cons,
        inductionHypothesis]
      cases result.outcome <;> simp <;> omega

/-- What the dispatch job records is balanced. -/
theorem balanced_dispatchExternalDispatchesJob
    (ended : CycleEnd DispatchResult)
    (outcome : CycleOutcome)
    (recorded : CycleOutcome.ofValue (dispatchExternalDispatchesJob ended).outcome =
      some outcome) :
    Balanced outcome (counted (dispatchExternalDispatchesJob ended).counts) := by
  cases ended with
  | raised exceptionName =>
      obtain rfl : CycleOutcome.failed = outcome := Option.some.inj recorded
      exact ⟨rfl, Nat.le_refl 0, Nat.le_refl 0, nofun⟩
  | returned results aborted =>
      have counts : ∀ key, counted (some (storedCounts (summarizeDispatchResults results))) key =
          ((summarizeDispatchResults results).lookup key).getD 0 := by
        intro key
        unfold counted
        rw [Option.getD_some, lookup_storedCounts]
        cases (summarizeDispatchResults results).lookup key <;> simp [CountValue.count]
      have balanced : ∀ outcome, (outcome = .completed →
            results.countP (fun result => !result.persisted) = 0) →
          Balanced outcome (counted (some (storedCounts (summarizeDispatchResults results)))) := by
        intro outcome completes
        refine ⟨?_, ?_, ?_, fun completed => ?_⟩
        · rw [counts, counts, counts, counts]
          exact length_eq_outcomes results
        · rw [counts, counts]
          exact List.countP_le_length
        · rw [counts, counts]
          exact List.countP_le_length
        · rw [counts]
          exact completes completed
      unfold dispatchExternalDispatchesJob cycleRequest at recorded ⊢
      dsimp only at recorded ⊢
      split at recorded
      · next stopped =>
          obtain rfl : CycleOutcome.failed = outcome := Option.some.inj recorded
          rw [if_pos stopped]
          exact balanced _ nofun
      · next finished =>
          rw [if_neg finished]
          split at recorded
          · next lost =>
              obtain rfl : CycleOutcome.degraded = outcome := Option.some.inj recorded
              rw [if_pos lost]
              exact balanced _ nofun
          · next kept =>
              rw [if_neg kept]
              exact balanced outcome fun _ => not_not.mp kept

namespace Sample

/-- Two processes and the default retention. -/
def roster : Roster where
  recorder _ := { startedAt := 0 }

/-- A heartbeat that finds no row. -/
def registers
    (process : String)
    (number : Nat)
    (now : Instant) : List FleetAction :=
  List.replicate 7 (.heartbeat process number { now := now })

/-- A recorded cycle of dispatches. -/
def records
    (process : String)
    (now : Instant)
    (ended : CycleEnd DispatchResult) :
    List FleetAction :=
  [.record process (dispatchExternalDispatchesJob ended) { now := now },
    .recordOn process .externalDispatch {}, .recordOn process .externalDispatch {}]

/-- A clean-up from its call to its commit. -/
def cleansUp
    (owner : String)
    (now : Instant) : List FleetAction :=
  .sweep 0 owner now :: List.replicate 4 (.sweepOn 0 {})

/-- A cycle that sent one message and could not store the outcome of another. -/
def lossyCycle : CycleEnd DispatchResult :=
  .returned
    [{ dispatchId := 0, organizationId := "acme", outcome := .sent, reason := none
       smtpAttempted := true, persisted := true },
      { dispatchId := 1, organizationId := "acme", outcome := .unknown, reason := some "lost"
        smtpAttempted := true, persisted := false }] false

end Sample

end Status
end MailerAgent
