import MailerAgent.Status.DispatchMetrics
import MailerAgent.World.Delivery

/-!
# Dispatch metrics and deliveries

What the counts of the dispatch metrics say about the calls of the sender that were made: in
every reachable state the accepted ones lie between what is reported as sent and what may
have been sent.
-/

namespace MailerAgent

open Concurrent Dispatch Mail Relational Status

/-- The dispatch that a call was made for. -/
def Mail.SendCall.dispatchKey (call : SendCall) : Option Nat :=
  match call.origin with
  | .dispatch key => some key
  | _ => none

/-- The call was made for a dispatch. -/
def Mail.SendCall.isDispatch (call : SendCall) : Bool :=
  call.dispatchKey.isSome

/-- The call was made for a dispatch, and the sender returned this outcome. -/
def Mail.SendCall.reports
    (outcome : SendOutcome)
    (call : SendCall) : Bool :=
  call.isDispatch &&
    match call.report with
    | .returned result => result.outcome == outcome
    | .raised _ => false

/-- The row is in one of the states. -/
def isIn
    (states : List ExternalDispatchState)
    (row : ExternalDispatch) : Bool :=
  states.contains row.state

theorem dispatchKey_eq_some
    {call : SendCall}
    {key : Nat} :
    call.dispatchKey = some key ↔ call.isFor key = true := by
  unfold SendCall.dispatchKey SendCall.isFor
  cases call.origin <;> simp

theorem reports_eq_true
    {outcome : SendOutcome}
    {call : SendCall} :
    call.reports outcome = true ↔
      (∃ key, call.dispatchKey = some key) ∧
        ∃ result, call.report = .returned result ∧ result.outcome = outcome := by
  unfold SendCall.reports SendCall.isDispatch
  rw [Bool.and_eq_true, Option.isSome_iff_exists]
  cases call.report <;> simp

/-- The state of a dispatch whose only call reported an outcome. -/
theorem state_of_reports
    {state : ExternalDispatchState}
    {call : SendCall}
    {outcome : SendOutcome}
    (settled : Truthful state [call])
    (reported : call.reports outcome = Bool.true) :
    state ∈ [outcomeState outcome, .unknown, .sending] := by
  obtain ⟨-, result, report, rfl⟩ := reports_eq_true.mp reported
  have same : ∀ {other : SendCall} {recorded : SendResult}, [call] = [other] →
      other.report = .returned recorded → recorded = result := by
    intro other recorded only returned
    obtain rfl := List.singleton_inj.mp only
    exact SendReport.returned.inj (returned.symm.trans report)
  cases state with
  | queued | generating => cases settled
  | sending | unknown => simp
  | sent =>
      obtain ⟨other, recorded, only, returned, sent⟩ := settled
      rw [← same only returned, sent]
      exact List.mem_cons_self
  | failed =>
      rcases settled with uncalled | ⟨other, recorded, only, returned, failed⟩
      · cases uncalled
      · rw [← same only returned, failed]
        exact List.mem_cons_self

/-- The calls for one dispatch, as far as they are counted. -/
theorem countP_le_one
    {calls : List SendCall}
    {key : Nat}
    (single : (callsFor calls key).length ≤ 1)
    (counts : SendCall → Bool) :
    calls.countP (fun call => counts call && call.dispatchKey == some key) ≤ 1 := by
  refine Nat.le_trans ?_ single
  rw [callsFor, ← List.countP_eq_length_filter]
  refine List.countP_mono_left fun call _ holds => ?_
  exact dispatchKey_eq_some.mp (beq_iff_eq.mp (Bool.and_eq_true_iff.mp holds).2)

section Truthful

variable
  {database : Database}
  {calls : List SendCall}
  (truthful : ∀ key, Truthful (dispatchState database key) (callsFor calls key))

include truthful

/-- Each call for a dispatch belongs to a row, whose state is true to it. -/
theorem exists_row_of_call
    {call : SendCall}
    {key : Nat}
    (member : call ∈ calls)
    (concerns : call.dispatchKey = some key) :
    ∃ row, database.dispatches.get key = some row ∧ Truthful row.state [call] := by
  have present : call ∈ callsFor calls key :=
    List.mem_filter.mpr ⟨member, dispatchKey_eq_some.mp concerns⟩
  have only : callsFor calls key = [call] := by
    have single := (truthful key).length_le
    cases shape : callsFor calls key with
    | nil => exact absurd (shape ▸ present) List.not_mem_nil
    | cons first rest =>
        rw [shape] at single present
        obtain rfl : rest = [] := List.length_eq_zero_iff.mp (by simpa using single)
        rw [List.mem_singleton.mp present]
  have settled := truthful key
  rw [only] at settled
  cases found : database.dispatches.get key with
  | none =>
      rw [show dispatchState database key = .queued by simp [dispatchState, found]] at settled
      cases settled
  | some row => exact ⟨row, rfl, dispatchState_of_get found ▸ settled⟩

/-- The calls that reported an outcome concern dispatches that record it, or may have it. -/
theorem reports_le_countWhere (outcome : SendOutcome) :
    calls.countP (SendCall.reports outcome) ≤
      database.dispatches.countWhere (isIn [outcomeState outcome, .unknown, .sending]) := by
  refine Table.countP_le_countWhere SendCall.dispatchKey ?_ fun key =>
    countP_le_one (truthful key).length_le _
  intro call member reported
  obtain ⟨⟨key, concerns⟩, -⟩ := reports_eq_true.mp reported
  obtain ⟨row, found, settled⟩ := exists_row_of_call truthful member concerns
  exact ⟨key, row, concerns, found,
    List.contains_iff_mem.mpr (state_of_reports settled reported)⟩

end Truthful

/-- The counts of several states add up. -/
theorem countWhere_isIn_cons
    {dispatches : Table ExternalDispatch}
    {state : ExternalDispatchState}
    {states : List ExternalDispatchState}
    (new : state ∉ states) :
    dispatches.countWhere (isIn (state :: states)) =
      stateCount dispatches state + dispatches.countWhere (isIn states) := by
  unfold stateCount Table.countWhere
  induction dispatches.rows with
  | nil => rfl
  | cons row rows inductionHypothesis =>
      simp only [List.countP_cons, inductionHypothesis, isIn, List.contains_cons,
        Bool.or_eq_true]
      by_cases same : row.state = state
      · simp [same, new]
        omega
      · simp [same]
        omega

/-! ## Deliveries -/

/-- In every reachable state the dispatch metrics account for all dispatches and for all
calls of the sender made for them. The calls that the server accepted are at least the
dispatches reported as accepted, and at most these together with the ambiguous ones and the
ones still being sent. The calls that it refused are at most the failed dispatches together
with those; a dispatch also fails without a call. Queued, generating and attempted dispatches
are never more than all. -/
theorem dispatch_metrics_bracket_deliveries
    (deployment : Deployment)
    (world : World)
    (reachable : (system deployment).Reachable world)
    (aggregated : Table ExternalDispatch)
    (now : Instant)
    (leaseSeconds : Nat) :
    let metrics :=
      dispatchMetrics world.database.dispatches aggregated now leaseSeconds
    let ambiguous :=
      metrics.outcomes.unknownNeedsOperatorReconciliation + metrics.perState .sending
    metrics.total = world.database.dispatches.size ∧
      metrics.outcomes.smtpAccepted ≤ world.calls.countP (SendCall.reports .sent) ∧
      world.calls.countP (SendCall.reports .sent) ≤
        metrics.outcomes.smtpAccepted + ambiguous ∧
      world.calls.countP (SendCall.reports .failed) ≤
        metrics.outcomes.failedNotSent + ambiguous ∧
      metrics.queue.depth + metrics.perState .generating +
        world.calls.countP SendCall.isDispatch ≤ metrics.total := by
  intro metrics ambiguous
  have truthful := (Invariant.of_reachable reachable).truthful
  have total : metrics.total = world.database.dispatches.size := total_dispatchMetrics.1
  have empty : world.database.dispatches.countWhere (isIn []) = 0 :=
    List.countP_eq_zero.mpr fun _ _ => nofun
  refine ⟨total, ?_, ?_, ?_, ?_⟩
  · rw [show metrics.outcomes = _ from outcomes_dispatchMetrics]
    refine Table.countWhere_le_countP SendCall.dispatchKey fun key row found holds => ?_
    have sent := truthful key
    rw [dispatchState_of_get found, beq_iff_eq.mp holds] at sent
    obtain ⟨call, result, only, report, outcome⟩ := sent
    obtain ⟨member, own⟩ := List.mem_filter.mp (only ▸ List.mem_singleton_self call :
      call ∈ callsFor world.calls key)
    have concerns := dispatchKey_eq_some.mpr own
    exact ⟨call, member, reports_eq_true.mpr ⟨⟨key, concerns⟩, result, report, outcome⟩,
      concerns⟩
  · have bound := reports_le_countWhere truthful .sent
    simpa [outcomeState, countWhere_isIn_cons, empty, ambiguous, metrics] using bound
  · have bound := reports_le_countWhere truthful .failed
    simpa [outcomeState, countWhere_isIn_cons, empty, ambiguous, metrics] using bound
  · have attempts : world.calls.countP SendCall.isDispatch ≤
        world.database.dispatches.countWhere (isIn [.sending, .sent, .failed, .unknown]) := by
      refine Table.countP_le_countWhere SendCall.dispatchKey ?_ fun key =>
        countP_le_one (truthful key).length_le _
      intro call member attempted
      obtain ⟨key, concerns⟩ := Option.isSome_iff_exists.mp attempted
      obtain ⟨row, found, settled⟩ := exists_row_of_call truthful member concerns
      refine ⟨key, row, concerns, found, ?_⟩
      unfold isIn
      cases state : row.state with
      | queued | generating =>
          rw [state] at settled
          cases settled
      | sending | sent | failed | unknown => rfl
    rw [countWhere_isIn_cons (by decide), countWhere_isIn_cons (by decide),
      countWhere_isIn_cons (by decide), countWhere_isIn_cons (by decide), empty] at attempts
    have partition := sum_stateCount world.database.dispatches
    have depth : metrics.queue.depth = _ := depth_dispatchMetrics
    have generating : metrics.perState .generating = _ := perState_dispatchMetrics _
    rw [total, depth, generating]
    omega

/-- The delivery of a dispatch is counted once. -/
theorem dispatch_metrics_bracket_one_delivery :
    ∃ world, (system Sample.deployment).Reachable world ∧
      world.calls.countP (SendCall.reports .sent) = 1 ∧
      (dispatchMetrics world.database.dispatches world.database.dispatches 0
        900).outcomes.smtpAccepted ≤ world.calls.countP (SendCall.reports .sent) := by
  obtain ⟨world, reachable, holds⟩ := reachable_of_any Sample.deployment
    Sample.ambiguousDelivery
    (fun world => world.calls.countP (SendCall.reports .sent) == 1) (by decide +kernel)
  exact ⟨world, reachable, beq_iff_eq.mp holds,
    (dispatch_metrics_bracket_deliveries Sample.deployment world reachable
      world.database.dispatches 0 900).2.1⟩

end MailerAgent
